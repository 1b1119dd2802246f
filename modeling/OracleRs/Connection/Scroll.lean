import OracleRs.Lib.Machine
import OracleRs.Messages.Execute
import OracleRs.Messages.Requests
import OracleRs.Response.Parse

set_option relaxedAutoImplicit false
set_option autoImplicit false

/-!
# Scrollable cursors

The client keeps the position of a scrollable cursor (`cursor.rs`). `scroll` computes from it the position
that is requested, and a new position from the answer: the number of the row, or without a row what the
orientation says. Nothing bounds the new position by the number of rows.

Sending the request and parsing the response is a function here, from the execute message to a result of
`parse_query_response_with_columns`. A server with a result set of `n` rows answers a request for the position
of a row with that row and its number, and other requests with no row.

## Main definitions

* `OracleRs.ScrollableCursor`, `OracleRs.ScrollableCursor.scroll` — the cursor and the scroll operation.
* `OracleRs.ServesRows` — the server.
* `OracleRs.ScrollOp.target` — the position that an operation means.
* `OracleRs.ScrollsOn` — an operation requests the row that it means, and stays on the result set.
* `OracleRs.StaysOn` — the position that is meant is on the result set, and fits the request.

## Main results

* `OracleRs.scrollsOn_iff` — which operations scroll as they should, from a position on the result set.
* `OracleRs.scrollsOn_of_run` — operations that all mean a position on the result set stay on it.
-/

namespace OracleRs

/-- A scroll operation. -/
structure ScrollOp where
  /-- the orientation -/
  orientation : FetchOrientation
  /-- the offset, for the orientations that use one -/
  offset : Int64 := 0
deriving DecidableEq, Repr

/-- A scrollable cursor (`ScrollableCursor`). -/
structure ScrollableCursor where
  /-- the cursor id on the server -/
  cursorId : UInt16
  /-- column metadata -/
  columns : List ColumnInfo
  /-- is the cursor open? -/
  isOpen : Bool
  /-- the current position, 0 before the first row -/
  position : Int64
  /-- the number of rows, if it is known -/
  rowCount : Option UInt64

/-- What a scroll operation returns (`ScrollResult`). -/
structure ScrollResult where
  /-- the rows fetched -/
  rows : List Row
  /-- the new position -/
  position : Int64
  /-- has the cursor hit the beginning? -/
  atBeginning : Bool
  /-- has the cursor hit the end? -/
  atEnd : Bool

/-- A result of `i64` arithmetic, which panics when it overflows. -/
def checkedI64 (n : ℤ) : Except Error Int64 :=
  if -2 ^ 63 ≤ n ∧ n < 2 ^ 63 then .ok (Int64.ofInt n) else .error .arithmeticOverflow

/-- `.max(0) as u32`. -/
def clampU32 (n : Int64) : UInt32 := UInt32.ofNat n.toInt.toNat

namespace ScrollableCursor

/-- `ScrollableCursor::new`. -/
def new (cursorId : UInt16) (columns : List ColumnInfo) : ScrollableCursor :=
  ⟨cursorId, columns, true, 0, none⟩

variable (cursor : ScrollableCursor) (op : ScrollOp)

/-- `update_position`. -/
def updatePosition (newPosition : Int64) : ScrollableCursor := { cursor with position := newPosition }

/-- The position that is requested (`options.fetch_pos`). -/
def fetchPos : Except Error UInt32 :=
  match op.orientation with
  | .first => return 1
  | .last => return 0 -- the server calculates it
  | .absolute => return clampU32 op.offset
  | .relative => do return clampU32 (← checkedI64 (cursor.position.toInt + op.offset.toInt))
  | .next => do return clampU32 (← checkedI64 (cursor.position.toInt + 1))
  | .prior => do return clampU32 (← checkedI64 (cursor.position.toInt - 1))
  | .current => return clampU32 cursor.position

/-- The execute message of a scroll operation, before it gets its sequence number. -/
def message (fetchPos : UInt32) : ExecuteMessage :=
  let stmt : Statement :=
    { sql := "", cursorId := cursor.cursorId, columns := cursor.columns, executed := true,
      statementType := .query }
  let options : ExecuteOptions :=
    { ExecuteOptions.forQuery 1 with
      scrollable := true, scrollOperation := true, fetchOrientation := op.orientation.code,
      fetchPos := fetchPos }
  ExecuteMessage.new stmt options

/-- The position after an answer. -/
def newPosition (answer : QueryResult) : Except Error Int64 :=
  if ¬ answer.rows.isEmpty then
    return Int64.ofInt answer.rowsAffected.toNat
  else
    match op.orientation with
    | .first => return 0
    | .last => checkedI64 ((Int64.ofInt (cursor.rowCount.getD 0).toNat).toInt + 1)
    | .next => checkedI64 (cursor.position.toInt + 1)
    | .prior => checkedI64 (cursor.position.toInt - 1)
    | .absolute => return op.offset
    | .relative => checkedI64 (cursor.position.toInt + op.offset.toInt)
    | .current => return cursor.position

/-- `scroll`, with the exchange of the request for a parsed response. -/
def scroll (exchange : ExecuteMessage → Except Error QueryResult) :
    Except Error (ScrollResult × ScrollableCursor) := do
  if ¬ cursor.isOpen then
    throw .cursorClosed
  let fetchPos ← cursor.fetchPos op
  let queryResult ← exchange (cursor.message op fetchPos)
  let newPosition ← cursor.newPosition op queryResult
  let result : ScrollResult :=
    { rows := queryResult.rows, position := newPosition, atBeginning := newPosition ≤ 1,
      atEnd := !queryResult.hasMoreRows }
  return (result, cursor.updatePosition newPosition)

/-- One scroll operation and the exchange that it makes. An error leaves the cursor as it was; an overflow
ends the run. -/
def step (event : ScrollOp × (ExecuteMessage → Except Error QueryResult)) : Option ScrollableCursor :=
  match cursor.scroll event.1 event.2 with
  | .ok (_, cursor') => some cursor'
  | .error e => if e.isPanic then none else some cursor

end ScrollableCursor

/-! ## The server and the result set -/

section

variable (n : ℕ) (row : ℤ → Row)

/-- The position that a request asks the server for. -/
def requestedPosition (request : UInt32 × UInt32) : ℤ :=
  if request.1 = FetchOrientation.first.code then 1
  else if request.1 = FetchOrientation.last.code then n
  else request.2.toNat

/-- The row at a position, if there is one. -/
def rowsAt (p : ℤ) : List Row := if 1 ≤ p ∧ p ≤ n then [row p] else []

/-- The server answers a request with the row at its position and the number of the row, and with no row if
there is none. -/
def ServesRows (exchange : ExecuteMessage → Except Error QueryResult) : Prop :=
  ∀ msg : ExecuteMessage, ∃ answer, exchange msg = .ok answer ∧
    answer.rows = rowsAt n row (requestedPosition n msg.fetchPosition) ∧
    (answer.rows ≠ [] → (answer.rowsAffected.toNat : ℤ) = requestedPosition n msg.fetchPosition)

/-- The position that an operation means. -/
def ScrollOp.target (op : ScrollOp) (position : ℤ) : ℤ :=
  match op.orientation with
  | .first => 1
  | .last => n
  | .absolute => op.offset.toInt
  | .relative => position + op.offset.toInt
  | .next => position + 1
  | .prior => position - 1
  | .current => position

/-- The cursor is open and on the result set, or just before or just behind it. -/
structure OnResultSet (cursor : ScrollableCursor) : Prop where
  /-- it is open -/
  isOpen : cursor.isOpen = true
  /-- nothing sets its number of rows -/
  rowCount : cursor.rowCount = none
  /-- it is not further in front than before the first row -/
  zero_le : 0 ≤ cursor.position.toInt
  /-- nor further behind than after the last row -/
  le_succ : cursor.position.toInt ≤ n + 1

/-- The operation requests the row at the position that it means, returns it, and leaves the cursor on the
result set. Nothing overflows. -/
def ScrollsOn (cursor : ScrollableCursor) (op : ScrollOp) : Prop :=
  ∃ fetchPos, cursor.fetchPos op = .ok fetchPos ∧
    requestedPosition n (cursor.message op fetchPos).fetchPosition = op.target n cursor.position.toInt ∧
    ∀ exchange, ServesRows n row exchange → ∃ result cursor', cursor.scroll op exchange = .ok (result, cursor') ∧
      result.rows = rowsAt n row (op.target n cursor.position.toInt) ∧ OnResultSet n cursor'

/-- The position that is meant is on the result set and fits: the 32 bits of the request, or, if the server
finds it, the position of the cursor. -/
structure StaysOn (cursor : ScrollableCursor) (op : ScrollOp) : Prop where
  /-- it is not further in front than before the first row -/
  zero_le : 0 ≤ op.target n cursor.position.toInt
  /-- nor further behind than after the last row -/
  le_succ : op.target n cursor.position.toInt ≤ n + 1
  /-- it fits -/
  fits : op.target n cursor.position.toInt < if op.orientation = .last then 2 ^ 63 else 2 ^ 32

/-! ## One operation -/

lemma checkedI64_of_le {m : ℤ} (hlow : 0 ≤ m) (hhigh : m < 2 ^ 63) :
    ∃ p, checkedI64 m = .ok p ∧ p.toInt = m :=
  ⟨Int64.ofInt m, if_pos ⟨by omega, hhigh⟩, Int64.toInt_ofInt_of_le (by omega) hhigh⟩

lemma toInt_of_checkedI64 {m : ℤ} {p : Int64} (h : checkedI64 m = .ok p) : p.toInt = m := by
  rw [checkedI64] at h
  split at h
  · next hfits =>
    rw [← Except.ok.inj h]
    exact Int64.toInt_ofInt_of_le hfits.1 hfits.2
  · cases h

/-- A position that is not negative is requested if it fits 32 bits. -/
lemma toNat_clampU32 {p : Int64} (hlow : 0 ≤ p.toInt) (hhigh : p.toInt < 2 ^ 32) :
    ((clampU32 p).toNat : ℤ) = p.toInt := by
  rw [clampU32, UInt32.toNat_ofNat', Nat.mod_eq_of_lt (by omega)]
  omega

namespace ScrollableCursor

variable {n row} {cursor : ScrollableCursor} {op : ScrollOp}

/-- The request holds the orientation and the position. -/
lemma requestedPosition_message (fetchPos : UInt32) :
    requestedPosition n (cursor.message op fetchPos).fetchPosition =
      if op.orientation = .first then 1 else if op.orientation = .last then n else fetchPos.toNat := by
  obtain ⟨orientation, offset⟩ := op
  cases orientation <;> rfl

/-- The position that is meant is requested. -/
lemma exists_fetchPos (hstays : StaysOn n cursor op) : ∃ fetchPos, cursor.fetchPos op = .ok fetchPos ∧
    requestedPosition n (cursor.message op fetchPos).fetchPosition = op.target n cursor.position.toInt := by
  obtain ⟨hlow, -, hfits⟩ := hstays
  have hmove : ∀ p : Int64, op.orientation ≠ .first → op.orientation ≠ .last →
      p.toInt = op.target n cursor.position.toInt →
      requestedPosition n (cursor.message op (clampU32 p)).fetchPosition =
        op.target n cursor.position.toInt := by
    intro p hfirst hlast htarget
    rw [if_neg hlast] at hfits
    rw [requestedPosition_message, if_neg hfirst, if_neg hlast,
      toNat_clampU32 (by omega) (by omega), htarget]
  have hchecked : ∀ m : ℤ, op.orientation ≠ .first → op.orientation ≠ .last →
      m = op.target n cursor.position.toInt → ∃ p, checkedI64 m = .ok p ∧
        requestedPosition n (cursor.message op (clampU32 p)).fetchPosition =
          op.target n cursor.position.toInt := by
    intro m hfirst hlast htarget
    rw [if_neg hlast] at hfits
    obtain ⟨p, hp, hvalue⟩ := checkedI64_of_le (m := m) (by omega) (by omega)
    exact ⟨p, hp, hmove p hfirst hlast (hvalue.trans htarget)⟩
  obtain ⟨orientation, offset⟩ := op
  cases orientation with
  | first => exact ⟨1, rfl, rfl⟩
  | last => exact ⟨0, rfl, rfl⟩
  | absolute => exact ⟨_, rfl, hmove offset (by simp) (by simp) rfl⟩
  | current => exact ⟨_, rfl, hmove cursor.position (by simp) (by simp) rfl⟩
  | relative =>
    obtain ⟨p, hp, hrequest⟩ := hchecked (cursor.position.toInt + offset.toInt) (by simp) (by simp) rfl
    exact ⟨_, by rw [fetchPos, hp]; rfl, hrequest⟩
  | next =>
    obtain ⟨p, hp, hrequest⟩ := hchecked (cursor.position.toInt + 1) (by simp) (by simp) rfl
    exact ⟨_, by rw [fetchPos, hp]; rfl, hrequest⟩
  | prior =>
    obtain ⟨p, hp, hrequest⟩ := hchecked (cursor.position.toInt - 1) (by simp) (by simp) rfl
    exact ⟨_, by rw [fetchPos, hp]; rfl, hrequest⟩

/-- Behind an answer the position is the one that is meant, except that it is before the first row behind a
first row that there is not. -/
lemma exists_newPosition (h : OnResultSet n cursor) (hstays : StaysOn n cursor op) {answer : QueryResult}
    (hrows : answer.rows = rowsAt n row (op.target n cursor.position.toInt))
    (hcount : answer.rows ≠ [] → (answer.rowsAffected.toNat : ℤ) = op.target n cursor.position.toInt) :
    ∃ p, cursor.newPosition op answer = .ok p ∧ 0 ≤ p.toInt ∧ p.toInt ≤ n + 1 := by
  obtain ⟨hlow, hhigh, hfits⟩ := hstays
  have hbound : op.target n cursor.position.toInt < 2 ^ 63 := by
    split at hfits <;> omega
  by_cases hinside : 1 ≤ op.target n cursor.position.toInt ∧ op.target n cursor.position.toInt ≤ n
  · -- the number of the row
    have hne : answer.rows ≠ [] := by
      rw [hrows, rowsAt, if_pos hinside]
      exact List.cons_ne_nil _ _
    have hvalue : (Int64.ofInt answer.rowsAffected.toNat).toInt = op.target n cursor.position.toInt := by
      rw [hcount hne]
      exact Int64.toInt_ofInt_of_le (by omega) hbound
    refine ⟨Int64.ofInt answer.rowsAffected.toNat, ?_, by omega, by omega⟩
    rw [newPosition, if_pos (by simpa using hne)]
    rfl
  · have hempty : answer.rows = [] := by rw [hrows, rowsAt, if_neg hinside]
    have hanswer : ¬ ¬ answer.rows.isEmpty = true := by simp [hempty]
    have hchecked : ∀ m : ℤ, m = op.target n cursor.position.toInt →
        ∃ p, checkedI64 m = .ok p ∧ 0 ≤ p.toInt ∧ p.toInt ≤ n + 1 := by
      intro m hm
      obtain ⟨p, hp, hvalue⟩ := checkedI64_of_le (m := m) (by omega) (by omega)
      exact ⟨p, hp, by omega, by omega⟩
    rw [newPosition, if_neg hanswer]
    obtain ⟨orientation, offset⟩ := op
    cases orientation with
    | first =>
      have hzero : (0 : Int64).toInt = 0 := rfl
      exact ⟨0, rfl, by omega, by omega⟩
    | last =>
      have hone : (1 : Int64).toInt = 1 := rfl
      rw [h.rowCount]
      exact ⟨1, rfl, by omega, by omega⟩
    | absolute => exact ⟨offset, rfl, hlow, hhigh⟩
    | current => exact ⟨cursor.position, rfl, hlow, hhigh⟩
    | relative => exact hchecked _ rfl
    | next => exact hchecked _ rfl
    | prior => exact hchecked _ rfl

/-- What `scroll` returns when no part of it fails. -/
lemma scroll_eq {exchange : ExecuteMessage → Except Error QueryResult} (hopen : cursor.isOpen = true)
    {fetchPos : UInt32} (hfetch : cursor.fetchPos op = .ok fetchPos) {answer : QueryResult}
    (hexchange : exchange (cursor.message op fetchPos) = .ok answer) {p : Int64}
    (hp : cursor.newPosition op answer = .ok p) :
    cursor.scroll op exchange =
      .ok ({ rows := answer.rows, position := p, atBeginning := p ≤ 1, atEnd := !answer.hasMoreRows },
        cursor.updatePosition p) := by
  rw [scroll, if_neg (by simp [hopen]), hfetch]
  simp only [bind, Except.bind, hexchange, hp]
  rfl

/-- **An operation that stays on the result set scrolls on it.** -/
lemma scrollsOn_of_staysOn (h : OnResultSet n cursor) (hstays : StaysOn n cursor op) :
    ScrollsOn n row cursor op := by
  obtain ⟨fetchPos, hfetch, hrequest⟩ := exists_fetchPos hstays
  refine ⟨fetchPos, hfetch, hrequest, fun exchange hserves => ?_⟩
  obtain ⟨answer, hexchange, hrows, hcount⟩ := hserves (cursor.message op fetchPos)
  rw [hrequest] at hrows hcount
  obtain ⟨p, hp, hlow, hhigh⟩ := exists_newPosition h hstays hrows hcount
  refine ⟨_, _, scroll_eq h.isOpen hfetch hexchange hp, hrows, ?_⟩
  exact ⟨h.isOpen, h.rowCount, hlow, hhigh⟩

/-- A scroll operation without an error moves the cursor to the position behind the answer. -/
lemma exists_of_scroll {exchange : ExecuteMessage → Except Error QueryResult} {fetchPos : UInt32}
    (hfetch : cursor.fetchPos op = .ok fetchPos) {result : ScrollResult} {cursor' : ScrollableCursor}
    (h : cursor.scroll op exchange = .ok (result, cursor')) :
    ∃ answer p, exchange (cursor.message op fetchPos) = .ok answer ∧ cursor.newPosition op answer = .ok p ∧
      cursor' = cursor.updatePosition p := by
  rw [scroll] at h
  by_cases hopen : cursor.isOpen = true
  · rw [if_neg (by simp [hopen]), hfetch] at h
    cases hanswer : exchange (cursor.message op fetchPos) with
    | error e =>
      simp only [bind, Except.bind, hanswer] at h
      cases h
    | ok answer =>
      cases hp : cursor.newPosition op answer with
      | error e =>
        simp only [bind, Except.bind, hanswer, hp] at h
        cases h
      | ok p =>
        simp only [bind, Except.bind, hanswer, hp] at h
        exact ⟨answer, p, rfl, hp, (congrArg Prod.snd (Except.ok.inj h)).symm⟩
  · rw [if_pos hopen] at h
    cases h

/-- Without a row the cursor is at the position that is meant, but for the first and the last row. -/
lemma toInt_newPosition {answer : QueryResult} (hrows : answer.rows = []) (hfirst : op.orientation ≠ .first)
    (hlast : op.orientation ≠ .last) {p : Int64} (hp : cursor.newPosition op answer = .ok p) :
    p.toInt = op.target n cursor.position.toInt := by
  rw [newPosition, if_neg (by simp [hrows])] at hp
  obtain ⟨orientation, offset⟩ := op
  cases orientation with
  | first => exact absurd rfl hfirst
  | last => exact absurd rfl hlast
  | absolute => exact congrArg Int64.toInt (Except.ok.inj hp).symm
  | current => exact congrArg Int64.toInt (Except.ok.inj hp).symm
  | relative => exact toInt_of_checkedI64 hp
  | next => exact toInt_of_checkedI64 hp
  | prior => exact toInt_of_checkedI64 hp

end ScrollableCursor

/-- A server with the rows of a result set. -/
def serveRows (msg : ExecuteMessage) : Except Error QueryResult :=
  let p := requestedPosition n msg.fetchPosition
  .ok { columns := [], rows := rowsAt n row p, rowsAffected := UInt64.ofNat p.toNat, hasMoreRows := false,
        cursorId := 0 }

variable {n}

lemma servesRows_serveRows (hn : n < 2 ^ 64) : ServesRows n row (serveRows n row) := by
  refine fun msg => ⟨_, rfl, rfl, fun hne => ?_⟩
  have hinside : 1 ≤ requestedPosition n msg.fetchPosition ∧ requestedPosition n msg.fetchPosition ≤ n := by
    by_contra hout
    exact hne (if_neg hout)
  rw [UInt64.toNat_ofNat', Nat.mod_eq_of_lt (by omega)]
  omega

/-- **Which operations scroll as they should**, from a position on the result set: those that mean a position
on it. -/
lemma scrollsOn_iff (hn : n < 2 ^ 63) {cursor : ScrollableCursor} (h : OnResultSet n cursor) (op : ScrollOp) :
    ScrollsOn n row cursor op ↔ StaysOn n cursor op := by
  refine ⟨?_, ScrollableCursor.scrollsOn_of_staysOn h⟩
  rintro ⟨fetchPos, hfetch, hrequest, hall⟩
  obtain ⟨result, cursor', hscroll, -, hafter⟩ := hall _ (servesRows_serveRows row (by omega))
  obtain ⟨answer, p, hanswer, hp, rfl⟩ := ScrollableCursor.exists_of_scroll hfetch hscroll
  by_cases hfirst : op.orientation = .first
  · have htarget : op.target n cursor.position.toInt = 1 := by rw [ScrollOp.target, hfirst]
    refine ⟨by omega, by omega, ?_⟩
    rw [htarget]
    split <;> omega
  by_cases hlast : op.orientation = .last
  · have htarget : op.target n cursor.position.toInt = n := by rw [ScrollOp.target, hlast]
    refine ⟨by omega, by omega, ?_⟩
    rw [if_pos hlast]
    omega
  rw [ScrollableCursor.requestedPosition_message, if_neg hfirst, if_neg hlast] at hrequest
  have hfits := fetchPos.toNat_lt
  refine ⟨by omega, ?_, by rw [if_neg hlast]; omega⟩
  by_contra hfar
  -- behind the last row there is no row, so that the cursor is where it was meant to be
  have hrows : answer.rows = [] := by
    rw [← Except.ok.inj hanswer]
    refine if_neg ?_
    rw [ScrollableCursor.requestedPosition_message, if_neg hfirst, if_neg hlast]
    omega
  have hposition := ScrollableCursor.toInt_newPosition (n := n) hrows hfirst hlast hp
  have hle : p.toInt ≤ n + 1 := hafter.le_succ
  omega

variable (n)

/-- **Scrolling stays on the result set** when every operation means a position on it, or just before or just
behind it: in every state that a run of such operations reaches the cursor is there, and a further one requests
and returns the row that it means. -/
theorem scrollsOn_of_run {cursorId : UInt16} {columns : List ColumnInfo}
    {events : List (ScrollOp × (ExecuteMessage → Except Error QueryResult))} {cursor : ScrollableCursor}
    (hrun : Machine.Run ScrollableCursor.step (fun c event => ServesRows n row event.2 ∧ StaysOn n c event.1)
      (ScrollableCursor.new cursorId columns) events cursor) :
    OnResultSet n cursor ∧ ∀ op, StaysOn n cursor op → ScrollsOn n row cursor op := by
  have hstart : OnResultSet n (ScrollableCursor.new cursorId columns) :=
    ⟨rfl, rfl, le_rfl, by
      change (0 : Int64).toInt ≤ n + 1
      have hzero : (0 : Int64).toInt = 0 := rfl
      omega⟩
  have hreached : OnResultSet n cursor := by
    refine hrun.invariant (P := OnResultSet n) ?_ hstart
    rintro c ⟨op, exchange⟩ c' h ⟨hserves, hstays⟩ hstep
    have hscrolls : ScrollsOn n row c op := ScrollableCursor.scrollsOn_of_staysOn h hstays
    obtain ⟨_, _, _, hall⟩ := hscrolls
    obtain ⟨result, cursor', hscroll, -, hafter⟩ := hall exchange hserves
    rw [ScrollableCursor.step, hscroll] at hstep
    rwa [← Option.some.inj hstep]
  exact ⟨hreached, fun op => ScrollableCursor.scrollsOn_of_staysOn hreached⟩

end

/-- From the first row to behind the third one, and back to it. -/
theorem scrollsOn_of_run_three :
    OnResultSet 3 ⟨7, [], true, 3, none⟩ ∧
      ScrollsOn 3 (fun p => [.integer (Int64.ofInt p)]) ⟨7, [], true, 3, none⟩ ⟨.absolute, 2⟩ := by
  have hserves := servesRows_serveRows (fun p => [.integer (Int64.ofInt p)]) (show 3 < 2 ^ 64 by omega)
  have hfirst : StaysOn 3 ⟨7, [], true, 0, none⟩ ⟨.first, 0⟩ := ⟨by decide, by decide, by decide⟩
  have hbehind : StaysOn 3 ⟨7, [], true, 1, none⟩ ⟨.relative, 3⟩ := ⟨by decide, by decide, by decide⟩
  have hback : StaysOn 3 ⟨7, [], true, 4, none⟩ ⟨.prior, 0⟩ := ⟨by decide, by decide, by decide⟩
  have hnext : StaysOn 3 ⟨7, [], true, 3, none⟩ ⟨.absolute, 2⟩ := ⟨by decide, by decide, by decide⟩
  have hrun := scrollsOn_of_run 3 (fun p => [.integer (Int64.ofInt p)])
    (.cons (e := (_, serveRows 3 _)) ⟨hserves, hfirst⟩ rfl (.cons (e := (_, serveRows 3 _)) ⟨hserves, hbehind⟩ rfl
      (.cons (e := (_, serveRows 3 _)) ⟨hserves, hback⟩ rfl (.nil _))))
  exact ⟨hrun.1, hrun.2 _ hnext⟩

/-- The only row of a result set, and an absolute position behind it: the cursor is at that position. -/
theorem not_scrollsOn_absolute :
    ¬ScrollsOn 1 (fun _ => [.integer 1]) (ScrollableCursor.new 7 []) ⟨.absolute, 5⟩ := by
  rintro ⟨fetchPos, -, -, hall⟩
  obtain ⟨result, cursor', hscroll, -, hafter⟩ :=
    hall _ (servesRows_serveRows (fun _ => [.integer 1]) (show 1 < 2 ^ 64 by omega))
  have hcomputed : (ScrollableCursor.new 7 []).scroll ⟨.absolute, 5⟩ (serveRows 1 fun _ => [.integer 1]) =
      .ok (⟨[], 5, false, true⟩, ⟨7, [], true, 5, none⟩) := rfl
  have hcursor := (Prod.mk.inj (Except.ok.inj (hcomputed.symm.trans hscroll))).2
  rw [← hcursor] at hafter
  exact absurd hafter.le_succ (by decide)

end OracleRs
