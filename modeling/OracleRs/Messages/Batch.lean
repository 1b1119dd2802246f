import OracleRs.Messages.ExecuteBinds
import OracleRs.Statement.BindScan

set_option relaxedAutoImplicit false
set_option autoImplicit false

/-!
# Batches

A batch executes one DML statement with many rows of bind values (`batch.rs`, `execute_batch`). The
metadata of the binds is written once for all rows: the types come from the first row, the buffer
sizes are the largest that any row asks for. Only a NULL in the first row forgets them.

## Main definitions

* `OracleRs.BatchBinds` — the rows of a batch, `OracleRs.BatchBinds.message` — its message.
* `OracleRs.ExecuteMessage.SizeCovers` — the buffer size in the metadata entry of a column is enough
  for its values in all rows.

## Main results

* `OracleRs.BatchBinds.validate_eq_ok_iff` — which batches are valid.
* `OracleRs.ExecuteMessage.valueSize_le_of_maxSizes` — the largest sizes cover every row.
* `OracleRs.BatchBinds.exists_declared` — what is declared about a column.
* `OracleRs.BatchBinds.sizeCovers_iff` — when the declared buffer sizes cover the rows of a batch.
-/

namespace OracleRs

open Cursor
open Sink (Writes Yields Grows Puts)

/-- The options of a batch (`BatchOptions`). -/
structure BatchOptions where
  /-- continue after errors -/
  batchErrors : Bool := false
  /-- return the row count of every execution -/
  arrayDmlRowCounts : Bool := false
  /-- commit after the last execution -/
  autoCommit : Bool := false
deriving DecidableEq, Repr, Inhabited

/-- The rows of bind values of a batch (`BatchBinds`). -/
structure BatchBinds (tables : CharTables) where
  /-- the SQL text -/
  sql : String
  /-- the statement -/
  statement : Statement
  /-- the rows of values, one for each execution -/
  rows : List (List Value) := []
  /-- the number of values in a row -/
  numColumns : ℕ := 0
  /-- the options -/
  options : BatchOptions := {}
  /-- the statement is that of the text -/
  statement_eq : statement = Statement.new tables sql

namespace BatchBinds

variable {tables : CharTables}

/-! ## Building and checking a batch -/

/-- `BatchBinds::new`. -/
def new (sql : String) : BatchBinds tables :=
  { sql := sql, statement := Statement.new tables sql, statement_eq := rfl }

/-- `add_row`: the first row determines the number of columns. -/
def addRow (batch : BatchBinds tables) (values : List Value) : BatchBinds tables :=
  { batch with
    numColumns := if batch.rows.isEmpty then values.length else batch.numColumns
    rows := batch.rows ++ [values] }

/-- `with_options`. -/
def withOptions (batch : BatchBinds tables) (options : BatchOptions) : BatchBinds tables :=
  { batch with options := options }

/-- The loop of `validate` over the rows and their indices. -/
def checkRows (numColumns : ℕ) : ℕ → List (List Value) → Except Error Unit
  | _, [] => .ok ()
  | i, row :: rows =>
    if row.length ≠ numColumns then
      .error (.internal ("Row " ++ toString i ++ " has " ++ toString row.length ++
        " columns, expected " ++ toString numColumns))
    else
      checkRows numColumns (i + 1) rows

/-- `validate`. -/
def validate (batch : BatchBinds tables) : Except Error Unit :=
  if batch.rows.isEmpty then .error (.internal "Batch has no rows")
  else checkRows batch.numColumns 0 batch.rows

lemma checkRows_eq_ok_iff {numColumns : ℕ} {rows : List (List Value)} (i : ℕ) :
    checkRows numColumns i rows = .ok () ↔ ∀ row ∈ rows, row.length = numColumns := by
  induction rows generalizing i with
  | nil => simp [checkRows]
  | cons row rows ih =>
    rw [checkRows, List.forall_mem_cons]
    by_cases hrow : row.length = numColumns
    · rw [if_neg (not_not.mpr hrow), ih]
      exact (and_iff_right hrow).symm
    · rw [if_pos hrow]
      exact iff_of_false nofun fun h => hrow h.1

/-- The rows of a valid batch have as many values as there are columns. -/
lemma validate_eq_ok_iff (batch : BatchBinds tables) :
    batch.validate = .ok () ↔ batch.rows ≠ [] ∧ ∀ row ∈ batch.rows, row.length = batch.numColumns := by
  rw [validate]
  cases hrows : batch.rows with
  | nil => simp
  | cons row rows =>
    rw [List.isEmpty_cons, if_neg (by decide), checkRows_eq_ok_iff]
    exact (and_iff_right (List.cons_ne_nil row rows)).symm

/-- The message of `execute_batch`. -/
def message (batch : BatchBinds tables) (sequenceNumber : UInt8) : ExecuteMessage :=
  let options := { ExecuteOptions.forDml batch.options.autoCommit with
    numExecs := UInt32.ofNat batch.rows.length
    batchErrors := batch.options.batchErrors
    dmlRowCounts := batch.options.arrayDmlRowCounts }
  { (ExecuteMessage.new batch.statement options).setBatchBindValues batch.rows with
    sequenceNumber := sequenceNumber }

/-- A column holds NULLs, and else only values of a kind. -/
def ColumnHolds (batch : BatchBinds tables) (j : ℕ) (kind : Value → Prop) : Prop :=
  ∀ row ∈ batch.rows, ∀ v ∈ row[j]?, v.isNull = true ∨ kind v

/-- The column holds NULLs and strings, or NULLs and byte strings. -/
def HoldsText (batch : BatchBinds tables) (j : ℕ) : Prop :=
  batch.ColumnHolds j (fun v => ∃ s, v = .string s) ∨ batch.ColumnHolds j fun v => ∃ b, v = .bytes b

end BatchBinds

/-- The value is NULL, a string or a byte string. -/
def Value.IsText (v : Value) : Prop := v.isNull = true ∨ (∃ s, v = .string s) ∨ ∃ b, v = .bytes b

/-- The number of bytes of a string or byte string, zero for NULL. -/
def Value.byteLength (v : Value) : ℕ := (v.asBytes.getD []).length

/-- How a server takes the buffer size from a metadata entry. -/
def readBufferSize : ReadM UInt32 := do
  skip 4
  readUb4

namespace ExecuteMessage

variable {serializers : Serializers} {caps : Capabilities} {msg : ExecuteMessage} {largeSdu : Bool}
  {packet : Bytes}

/-- The packet has a metadata entry for the column, and the buffer size in it is at least the number
of bytes of the value that any row has in that column. -/
def SizeCovers (serializers : Serializers) (caps : Capabilities) (msg : ExecuteMessage)
    (largeSdu : Bool) (packet : Bytes) (j : ℕ) : Prop :=
  ∃ layout entry rest size, msg.LaidOut serializers caps largeSdu layout packet ∧
    layout.metadata[j]? = some (entry ++ rest) ∧ Reads readBufferSize entry size ∧
    ∀ row ∈ msg.batchBindValues, ∀ v ∈ row[j]?, v.byteLength ≤ size.toNat

/-! ## The largest sizes -/

/-- The size of a column is at least a number. -/
def CoversColumn (sizes : List UInt32) (j n : ℕ) : Prop := ∃ size ∈ sizes[j]?, n ≤ size.toNat

/-- One more row keeps what is covered, and covers its own values. -/
lemma coversColumn_of_raiseSizes {sizes sizes' : List UInt32} {row : List Value}
    (h : msg.raiseSizes serializers sizes row = .ok sizes') (j : ℕ) :
    (∀ n, CoversColumn sizes j n → CoversColumn sizes' j n) ∧
      ∀ v, row[j]? = some v → CoversColumn sizes' j (valueSize serializers v).toNat := by
  induction row generalizing sizes sizes' j with
  | nil =>
    obtain rfl := eq_of_raiseSizes_nil h
    exact ⟨fun _ hn => hn, nofun⟩
  | cons value row ih =>
    obtain ⟨size, sizes, rest, rfl, hrest, rfl⟩ := exists_of_raiseSizes_cons h
    cases j with
    | succ j => simpa [CoversColumn] using ih hrest j
    | zero =>
      simp only [CoversColumn, List.getElem?_cons_zero, Option.mem_some_iff, exists_eq_left',
        Option.some.injEq, forall_eq', gt_iff_lt, UInt32.lt_iff_toNat_lt]
      split_ifs with hlt
      · exact ⟨fun n hn => hn.trans hlt.le, le_rfl⟩
      · exact ⟨fun n hn => hn, not_lt.mp hlt⟩

/-- The rows cover all their values. -/
lemma coversColumn_of_foldlM {rows : List (List Value)} {sizes sizes' : List UInt32}
    (h : rows.foldlM (msg.raiseSizes serializers) sizes = .ok sizes') (j : ℕ) :
    (∀ n, CoversColumn sizes j n → CoversColumn sizes' j n) ∧
      ∀ row ∈ rows, ∀ v, row[j]? = some v →
        CoversColumn sizes' j (valueSize serializers v).toNat := by
  induction rows generalizing sizes with
  | nil =>
    cases h
    exact ⟨fun _ hn => hn, nofun⟩
  | cons row rows ih =>
    rw [List.foldlM_cons] at h
    cases hrow : msg.raiseSizes serializers sizes row with
    | error e => rw [hrow] at h; cases h
    | ok sizes₁ =>
      rw [hrow] at h
      obtain ⟨hkeeps, hcovers⟩ := coversColumn_of_raiseSizes hrow j
      obtain ⟨hkeeps', hcovers'⟩ := ih h
      refine ⟨fun n hn => hkeeps' n (hkeeps n hn), ?_⟩
      rintro row' hmem v hv
      rcases List.mem_cons.mp hmem with rfl | hmem
      · exact hkeeps' _ (hcovers v hv)
      · exact hcovers' row' hmem v hv

/-- The largest sizes cover the values of every row. -/
lemma valueSize_le_of_maxSizes {sizes : List UInt32} (h : msg.maxSizes serializers = .ok sizes)
    {row : List Value} (hrow : row ∈ msg.batchBindValues) {j : ℕ} {v : Value} {size : UInt32}
    (hv : row[j]? = some v) (hsize : sizes[j]? = some size) :
    (valueSize serializers v).toNat ≤ size.toNat := by
  obtain ⟨size', hsize', hle⟩ := (coversColumn_of_foldlM h j).2 row hrow v hv
  rw [hsize, Option.mem_some_iff] at hsize'
  exact hsize' ▸ hle

/-- A NULL, string or byte string asks for its length, as far as it fits four bytes. -/
lemma valueSize_of_isText {v : Value} (h : v.IsText) :
    valueSize serializers v = UInt32.ofNat v.byteLength := by
  rcases h with h | ⟨s, rfl⟩ | ⟨b, rfl⟩
  · cases v <;> first | rfl | cases h
  · rfl
  · rfl

/-- The size that is inferred from a value is no smaller than the largest one, unless the value is a
NULL without a type. -/
lemma le_bufferSize_of_isText {v : Value} (h : v.IsText) (hne : v ≠ .null) (maxSize : UInt32) :
    maxSize.toNat ≤ (inferBindMetadata v maxSize).bufferSize.toNat := by
  rcases h with h | ⟨s, rfl⟩ | ⟨b, rfl⟩
  · cases v with
    | null => exact absurd rfl hne
    | typedNull oracleType => simp [inferBindMetadata, UInt32.toNat_max]
    | _ => cases h
  · simp [inferBindMetadata, UInt32.toNat_max]
  · simp [inferBindMetadata, UInt32.toNat_max]

/-! ## The metadata entries -/

/-- The buffer size in a metadata entry. -/
lemma exists_entry {description : BindDescription} {value : Value} {b : Bytes}
    (h : Puts (writeBindMetadata caps (description, value)) b) :
    ∃ entry rest, b = entry ++ rest ∧ Reads readBufferSize entry description.bufferSize := by
  have hlast := grows_writeUb4_zero.ite (c := caps.ttcFieldVersion ≥ fieldVersion12_2)
    (Grows.pure ())
  have hrest := grows_writeUb4_zero.bind fun _ => (grows_writeUb8 description.contFlag).bind fun _ =>
    (grows_writeBindOid description.oracleType value).bind fun _ =>
    (grows_writeUb2 (if description.csfrm ≠ 0 then charsetUtf8 else 0)).bind fun _ =>
    (grows_writeU8 description.csfrm).bind fun _ => grows_writeUb4_zero.bind fun _ => hlast
  have hyields : Yields (writeBindMetadata caps (description, value)) _ :=
    (writes_writeU8 description.oracleType.code).yields.bind fun _ =>
    (writes_writeU8 useIndicators).yields.bind fun _ => (writes_writeU8 0).yields.bind fun _ =>
    (writes_writeU8 0).yields.bind fun _ => (writes_writeUb4 description.bufferSize).yields.bind
    fun _ => hrest
  obtain ⟨_, _, rfl, rfl, _, _, rfl, rfl, _, _, rfl, rfl, _, _, rfl, rfl, _, rest, rfl, rfl, -⟩ :=
    hyields.of_puts h
  refine ⟨[description.oracleType.code, useIndicators, 0, 0] ++
    ubBytes description.bufferSize.toNat, rest, by simp, ?_⟩
  exact (reads_skip [description.oracleType.code, useIndicators, 0, 0]).bind (reads_ubBytes4 _)

/-- The description that is declared for a column. -/
lemma getElem?_binds {sizes : List UInt32} {j : ℕ} {v : Value} {size : UInt32}
    (hv : msg.firstRow[j]? = some v) (hsize : sizes[j]? = some size) :
    (msg.binds sizes)[j]? = some (msg.describeBind v size j, v) := by
  have hzip : (msg.firstRow.zip sizes)[j]? = some (v, size) :=
    List.getElem?_zip_eq_some.mpr ⟨hv, hsize⟩
  simp [binds, hzip]

private lemma exists_of_forall₂ {α β : Type} {R : α → β → Prop} {l : List α} {l' : List β}
    (h : List.Forall₂ R l l') {j : ℕ} {a : α} (ha : l[j]? = some a) :
    ∃ b, l'[j]? = some b ∧ R a b := by
  induction h generalizing j with
  | nil => cases ha
  | cons hR _ ih =>
    cases j with
    | zero =>
      cases ha
      exact ⟨_, rfl, hR⟩
    | succ j => exact ih ha

/-- The buffer size in the packet is the one that is declared. -/
lemma sizeCovers_iff_of_binds {layout : BindLayout} {j : ℕ} {description : BindDescription}
    {value : Value} (hlayout : msg.LaidOut serializers caps largeSdu layout packet)
    (hbind : (msg.emittedBinds serializers)[j]? = some (description, value)) :
    msg.SizeCovers serializers caps largeSdu packet j ↔
      ∀ row ∈ msg.batchBindValues, ∀ v ∈ row[j]?, v.byteLength ≤ description.bufferSize.toNat := by
  constructor
  · rintro ⟨layout', entry, rest, size, ⟨_, ⟨_, _, _, _, -, -, -, -, hmetadata, -⟩, -⟩, hentry, hreads,
      hcovers⟩
    obtain ⟨b, hb, hputs⟩ := exists_of_forall₂ hmetadata hbind
    obtain ⟨entry', rest', rfl, hreads'⟩ := exists_entry hputs
    rw [hentry, Option.some.injEq] at hb
    obtain ⟨rfl, -⟩ := hreads.unique hreads' hb
    exact hcovers
  · intro hcovers
    obtain ⟨_, ⟨_, _, _, _, -, -, -, -, hmetadata, -⟩, -⟩ := id hlayout
    obtain ⟨b, hb, hputs⟩ := exists_of_forall₂ hmetadata hbind
    obtain ⟨entry, rest, rfl, hreads⟩ := exists_entry hputs
    exact ⟨layout, entry, rest, _, hlayout, hb, hreads, hcovers⟩

end ExecuteMessage

/-! ## Batches -/

namespace Statement

variable (tables : CharTables) (sql : String)

/-- A new statement has no cursor. -/
lemma cursorId_new : (new tables sql).cursorId = 0 := by
  rw [new]
  split_ifs <;> rfl

/-- A new statement needs no defines. -/
lemma requiresDefine_new : (new tables sql).requiresDefine = false := by
  rw [new]
  split_ifs <;> rfl

end Statement

namespace BatchBinds

variable {tables : CharTables} {batch : BatchBinds tables} {j : ℕ}

/-- The column holds fewer than `2 ^ 32` bytes in every row, and at most one byte if it is a NULL
without a type in the first row. -/
def LengthsFit (batch : BatchBinds tables) (j : ℕ) : Prop :=
  (∀ row ∈ batch.rows, ∀ v ∈ row[j]?, v.byteLength < 2 ^ 32) ∧
    ((batch.rows.headD [])[j]? = some .null →
      ∀ row ∈ batch.rows, ∀ v ∈ row[j]?, v.byteLength ≤ 1)

private lemma headD_mem {rows : List (List Value)} (h : rows ≠ []) : rows.headD [] ∈ rows := by
  cases rows with
  | nil => exact absurd rfl h
  | cons first rows => exact List.mem_cons_self

lemma HoldsText.isText (h : batch.HoldsText j) {row : List Value} (hrow : row ∈ batch.rows)
    {v : Value} (hv : row[j]? = some v) : v.IsText :=
  h.elim (fun h => (h row hrow v hv).imp_right Or.inl) fun h => (h row hrow v hv).imp_right Or.inr

/-- The size that is declared for a column covers it if and only if its lengths fit. -/
lemma bufferSize_covers_iff {serializers : Serializers} {sequenceNumber : UInt8} {sizes : List UInt32}
    (hsizes : (batch.message sequenceNumber).maxSizes serializers = .ok sizes)
    (htext : batch.HoldsText j) {v : Value} {size : UInt32}
    (hv : (batch.rows.headD [])[j]? = some v) (hsize : sizes[j]? = some size) :
    (∀ row ∈ batch.rows, ∀ v' ∈ row[j]?,
      v'.byteLength ≤ (inferBindMetadata v size).bufferSize.toNat) ↔ batch.LengthsFit j := by
  have hlt (n : UInt32) : n.toNat < 2 ^ 32 := n.toNat_lt
  by_cases hnull : v = .null
  · -- a NULL in the first row: one byte, whatever the other rows hold
    subst hnull
    have hone : (inferBindMetadata .null size).bufferSize.toNat = 1 := rfl
    rw [hone, LengthsFit, and_iff_right_of_imp]
    · exact ⟨fun h _ => h, fun h => h hv⟩
    · intro h row hrow v' hv'
      exact (h hv row hrow v' hv').trans_lt (by norm_num)
  · constructor
    · intro h
      refine ⟨fun row hrow v' hv' => (h row hrow v' hv').trans_lt (hlt _), fun hfirst => ?_⟩
      rw [hv, Option.some.injEq] at hfirst
      exact absurd hfirst hnull
    · intro h row hrow v' hv'
      have hmem := headD_mem (List.ne_nil_of_mem hrow)
      have hle := ExecuteMessage.valueSize_le_of_maxSizes hsizes hrow hv' hsize
      rw [ExecuteMessage.valueSize_of_isText (htext.isText hrow hv'), UInt32.toNat_ofNat',
        Nat.mod_eq_of_lt (h.1 row hrow v' hv')] at hle
      exact hle.trans (ExecuteMessage.le_bufferSize_of_isText (htext.isText hmem hv) hnull size)

/-- The packet of a valid batch has a metadata entry for every column, with what is inferred from its
first value and its largest size. -/
lemma exists_declared {serializers : Serializers} {caps : Capabilities} {sequenceNumber : UInt8}
    {largeSdu : Bool} {packet : Bytes} (hvalid : batch.validate = .ok ())
    (hcolumn : j < batch.numColumns)
    (hbuilt : (batch.message sequenceNumber).buildRequestWithSdu serializers caps largeSdu =
      .ok packet) :
    ∃ layout sizes v size,
      (batch.message sequenceNumber).LaidOut serializers caps largeSdu layout packet ∧
      (batch.message sequenceNumber).maxSizes serializers = .ok sizes ∧
      (batch.rows.headD [])[j]? = some v ∧ sizes[j]? = some size ∧
      ((batch.message sequenceNumber).emittedBinds serializers)[j]? =
        some (inferBindMetadata v size, v) := by
  obtain ⟨hne, hrows⟩ := batch.validate_eq_ok_iff.mp hvalid
  have hfirst : (batch.message sequenceNumber).firstRow = batch.rows.headD [] := rfl
  have hlength : (batch.rows.headD []).length = batch.numColumns := hrows _ (headD_mem hne)
  have hcursor : (batch.message sequenceNumber).statement.cursorId = 0 := by
    show batch.statement.cursorId = 0
    rw [batch.statement_eq, Statement.cursorId_new]
  have hdefine : (batch.message sequenceNumber).statement.requiresDefine = false := by
    show batch.statement.requiresDefine = false
    rw [batch.statement_eq, Statement.requiresDefine_new]
  have hfull : (batch.message sequenceNumber).functionCode = .execute := by
    rw [ExecuteMessage.functionCode, hcursor]
    rfl
  have hhas : (batch.message sequenceNumber).hasBinds = true := by
    rw [ExecuteMessage.hasBinds_iff hdefine, hfirst, ← List.length_pos_iff]
    omega
  obtain ⟨layout, hlayout, hemitted⟩ := ExecuteMessage.exists_laidOut hfull hbuilt
  rw [if_pos hhas, hfirst, ExecuteMessage.emittedBinds, if_pos hhas] at hemitted
  -- the sizes have been computed, or there would be no metadata
  cases hsizes : (batch.message sequenceNumber).maxSizes serializers with
  | error e =>
    rw [ExecuteMessage.declaredBinds, hsizes, List.length_nil] at hemitted
    omega
  | ok sizes =>
    have hlen : sizes.length = (batch.rows.headD []).length := by
      simpa [hfirst] using ExecuteMessage.length_foldlM_raiseSizes hsizes
    obtain ⟨v, hv⟩ : ∃ v, (batch.rows.headD [])[j]? = some v :=
      ⟨_, List.getElem?_eq_getElem (hlength ▸ hcolumn)⟩
    obtain ⟨size, hsize⟩ : ∃ size, sizes[j]? = some size :=
      ⟨_, List.getElem?_eq_getElem (hlen.trans hlength ▸ hcolumn)⟩
    refine ⟨layout, sizes, v, size, hlayout, rfl, hv, hsize, ?_⟩
    rw [ExecuteMessage.emittedBinds, if_pos hhas, ExecuteMessage.declaredBinds, hsizes]
    exact ExecuteMessage.getElem?_binds hv hsize

/-- For every valid batch, and every column of it that holds NULLs and strings, or NULLs and byte
strings: the buffer size in the metadata covers the values of the column in all rows if and only if
they are shorter than `2 ^ 32` bytes, and no longer than one byte if the first one is a NULL without a
type. -/
theorem sizeCovers_iff (serializers : Serializers) (caps : Capabilities) (tables : CharTables)
    (batch : BatchBinds tables) (sequenceNumber : UInt8) (largeSdu : Bool) (packet : Bytes) (j : ℕ)
    (hvalid : batch.validate = .ok ()) (hcolumn : j < batch.numColumns) (htext : batch.HoldsText j)
    (hbuilt : (batch.message sequenceNumber).buildRequestWithSdu serializers caps largeSdu =
      .ok packet) :
    (batch.message sequenceNumber).SizeCovers serializers caps largeSdu packet j ↔
      batch.LengthsFit j := by
  obtain ⟨layout, sizes, v, size, hlayout, hsizes, hv, hsize, hbind⟩ :=
    exists_declared hvalid hcolumn hbuilt
  rw [ExecuteMessage.sizeCovers_iff_of_binds hlayout hbind]
  exact bufferSize_covers_iff hsizes htext hv hsize

/-- A batch of two rows with one value each. -/
def twoRows (v v' : Value) : BatchBinds .ascii :=
  ((new "INSERT INTO T VALUES (:1)").addRow [v]).addRow [v']

/-- Behind a string a longer one is covered. -/
theorem sizeCovers_strings : ∃ packet,
    ((twoRows (.string "a") (.string "bcd")).message 1).buildRequestWithSdu .rejecting {} false =
      .ok packet ∧
    ((twoRows (.string "a") (.string "bcd")).message 1).SizeCovers .rejecting {} false packet 0 := by
  have hbuilt : (((twoRows (.string "a") (.string "bcd")).message 1).buildRequestWithSdu
    .rejecting {} false).toOption.isSome = true := by decide +kernel
  cases hpacket : ((twoRows (.string "a") (.string "bcd")).message 1).buildRequestWithSdu
    .rejecting {} false with
  | error e =>
    rw [hpacket] at hbuilt
    cases hbuilt
  | ok packet =>
    have htext : (twoRows (.string "a") (.string "bcd")).HoldsText 0 := by
      refine Or.inl ?_
      simp [ColumnHolds, twoRows, addRow, new]
    refine ⟨packet, rfl, (sizeCovers_iff _ _ _ _ _ _ _ _ rfl (by decide) htext hpacket).mpr ⟨?_, ?_⟩⟩
    · simp [twoRows, addRow, new, Value.byteLength, Value.asBytes]
      decide
    · simp [twoRows, addRow, new]

/-- Behind a NULL in the first row a string of two bytes is declared with one byte. -/
theorem not_sizeCovers : ¬∀ (serializers : Serializers) (caps : Capabilities) (tables : CharTables)
    (batch : BatchBinds tables) (sequenceNumber : UInt8) (largeSdu : Bool) (packet : Bytes) (j : ℕ),
    batch.validate = .ok () → j < batch.numColumns → (∀ j < batch.numColumns, batch.HoldsText j) →
      (batch.message sequenceNumber).buildRequestWithSdu serializers caps largeSdu = .ok packet →
      (batch.message sequenceNumber).SizeCovers serializers caps largeSdu packet j := by
  intro hall
  have hbuilt : (((twoRows .null (.string "ab")).message 1).buildRequestWithSdu
    .rejecting {} false).toOption.isSome = true := by decide +kernel
  cases hpacket : ((twoRows .null (.string "ab")).message 1).buildRequestWithSdu
    .rejecting {} false with
  | error e =>
    rw [hpacket] at hbuilt
    cases hbuilt
  | ok packet =>
    have htext (j : ℕ) : (twoRows .null (.string "ab")).HoldsText j := by
      refine Or.inl ?_
      cases j <;> simp [ColumnHolds, twoRows, addRow, new, Value.isNull]
    have hcovers := hall _ _ _ _ _ _ _ 0 rfl (by decide) (fun j _ => htext j) hpacket
    obtain ⟨layout, sizes, v, size, hlayout, -, hv, -, hbind⟩ :=
      exists_declared (j := 0) rfl (by decide) hpacket
    obtain rfl : Value.null = v := Option.some.inj hv
    rw [ExecuteMessage.sizeCovers_iff_of_binds hlayout hbind] at hcovers
    have htwo := hcovers [.string "ab"] (by simp [message, twoRows, addRow, new,
      ExecuteMessage.setBatchBindValues]) _ rfl
    have hlength : (Value.string "ab").byteLength = 2 := by decide
    have hsize : (inferBindMetadata .null size).bufferSize.toNat = 1 := rfl
    omega

end BatchBinds

end OracleRs
