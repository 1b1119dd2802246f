import OracleRs.Messages.ExecuteSize

set_option relaxedAutoImplicit false
set_option autoImplicit false

/-!
# The binds of an execute message

A full execute message says three times how many binds there are: by the number in its header, by its
metadata entries, and by the values of each section of row data. The number comes from the
placeholders in the text of the statement, the entries from the first row of values, the sections
from each row.

## Main definitions

* `OracleRs.BindLayout` — what a message says about its binds, `OracleRs.ExecuteMessage.LaidOut` — the
  bytes that say it.
* `OracleRs.ExecuteMessage.BindsAgree` — the three numbers are the same.
* `OracleRs.ExecuteMessage.BindsMatch` — the placeholders and the rows of values match.

## Main results

* `OracleRs.ExecuteMessage.bindsAgree_iff` — the numbers in a message agree if and only if the
  placeholders and the rows of values match.
-/

namespace OracleRs

open Cursor
open Sink (Writes Yields Grows Puts)

/-- What a full execute message says about its binds. -/
structure BindLayout where
  /-- the number in the header -/
  declared : UInt32
  /-- the metadata entries -/
  metadata : List Bytes
  /-- the values in each section of row data -/
  rowData : List (List Bytes)

/-- There are as many metadata entries as the header declares, and as many values in every section of
row data. -/
def BindLayout.Consistent (layout : BindLayout) : Prop :=
  layout.declared.toNat = layout.metadata.length ∧
    ∀ values ∈ layout.rowData, values.length = layout.declared.toNat

/-- A section of row data: the values behind their marker. -/
def rowDataSection (values : List Bytes) : Bytes := MessageType.rowData.code :: values.flatten

/-- How a server takes the number of binds. -/
def readNumParams : ReadM UInt32 := do
  skipUb1
  readUb4

namespace ExecuteMessage

variable {serializers : Serializers} {caps : Capabilities} {msg : ExecuteMessage} {largeSdu : Bool}
  {packet : Bytes} {layout : BindLayout}

/-! ## The layout of a message -/

/-- Does the message have binds? -/
def hasBinds (msg : ExecuteMessage) : Bool := !msg.statement.requiresDefine && msg.hasBindValues

/-- The binds whose metadata is in the message. -/
def emittedBinds (msg : ExecuteMessage) (serializers : Serializers) : List (BindDescription × Value) :=
  if msg.hasBinds then msg.declaredBinds serializers else []

/-- The rows whose values are in the message. -/
def emittedRows (msg : ExecuteMessage) : List (List Value) :=
  if msg.hasBinds && !msg.skipRowData then msg.batchBindValues else []

/-- The fields between the number of binds and the defines or binds. -/
def writeFields (caps : Capabilities) (msg : ExecuteMessage) : WriteM Unit := do
  msg.writeMiddle caps
  msg.writeSql
  msg.writeArray

/-- The column defines, if there are any. -/
def writeDefines (caps : Capabilities) (msg : ExecuteMessage) : WriteM Unit :=
  if msg.statement.requiresDefine then msg.writeColumnDefines caps else pure ()

/-- The bytes are those of the full message with this layout. -/
def MessageLaidOut (serializers : Serializers) (caps : Capabilities) (msg : ExecuteMessage)
    (layout : BindLayout) (message : Bytes) : Prop :=
  ∃ head number fields defines,
    Puts (msg.writeHead caps) head ∧
    (Puts msg.writeNumParams number ∧ Reads readNumParams number layout.declared) ∧
    Puts (msg.writeFields caps) fields ∧
    Puts (msg.writeDefines caps) defines ∧
    List.Forall₂ (fun bind => Puts (writeBindMetadata caps bind)) (msg.emittedBinds serializers)
      layout.metadata ∧
    List.Forall₂ (List.Forall₂ fun v => Puts (writeBindValue serializers.toEncoders v))
      msg.emittedRows layout.rowData ∧
    message = head ++ (number ++ (fields ++ (defines ++ (layout.metadata.flatten ++
      layout.rowData.flatMap rowDataSection))))

/-- The packet carries a full message with this layout. -/
def LaidOut (serializers : Serializers) (caps : Capabilities) (msg : ExecuteMessage)
    (largeSdu : Bool) (layout : BindLayout) (packet : Bytes) : Prop :=
  ∃ message, msg.MessageLaidOut serializers caps layout message ∧
    packet = packetHeader largeSdu .data (packetHeaderSize + (2 + message.length)) ++
      (BigEndian.digits 2 dataFlagEndOfRequest.toNat ++ message)

/-- The packet carries a full message whose three numbers of binds are the same. -/
def BindsAgree (serializers : Serializers) (caps : Capabilities) (msg : ExecuteMessage)
    (largeSdu : Bool) (packet : Bytes) : Prop :=
  ∃ layout, msg.LaidOut serializers caps largeSdu layout packet ∧ layout.Consistent

/-- Unless column defines are required, the first row has a value for every placeholder of the
statement, if it has placeholders, and fewer than `2 ^ 32` values; every other row whose values are
sent is as long. -/
def BindsMatch (msg : ExecuteMessage) : Prop :=
  msg.statement.requiresDefine = true ∨
    (msg.firstRow.length = (if msg.statement.bindInfo.isEmpty then msg.firstRow.length
      else msg.statement.bindInfo.length) % 2 ^ 32 ∧
    (msg.skipRowData = true ∨ msg.firstRow = [] ∨
      ∀ row ∈ msg.batchBindValues, row.length = msg.firstRow.length))

/-! ## The number of binds -/

lemma writes_writeNumParams (msg : ExecuteMessage) : Writes msg.writeNumParams
    ((if msg.numParams = 0 then 0 else 1) :: ubBytes msg.numParams.toNat) := by
  unfold writeNumParams writeCounted
  by_cases hzero : msg.numParams = 0
  · rw [if_neg (by simpa using hzero), if_pos hzero, hzero]
    exact (writes_writeU8 0).bind (writes_writeUb4 0)
  · rw [if_pos (by simpa using hzero), if_neg hzero]
    exact (writes_writeU8 1).bind (writes_writeUb4 _)

lemma reads_readNumParams (pointer : UInt8) (n : UInt32) :
    Reads readNumParams (pointer :: ubBytes n.toNat) n :=
  (reads_skipUb1 pointer).cons (reads_ubBytes4 n)

/-- The number in the header is the number of parameters. -/
lemma declared_eq {number : Bytes} {declared : UInt32} (hputs : Puts msg.writeNumParams number)
    (hreads : Reads readNumParams number declared) : declared = msg.numParams := by
  rw [(writes_writeNumParams msg).puts_iff.mp hputs] at hreads
  exact hreads.right_unique (reads_readNumParams _ _)

lemma hasBinds_iff (hdefine : msg.statement.requiresDefine = false) :
    msg.hasBinds = true ↔ msg.firstRow ≠ [] := by
  simp only [hasBinds, hdefine, hasBindValues, firstRow]
  cases msg.batchBindValues <;> simp

/-- The number of parameters, unless column defines are required. -/
lemma toNat_numParams (hdefine : msg.statement.requiresDefine = false) :
    msg.numParams.toNat = (if msg.statement.bindInfo.isEmpty then msg.firstRow.length
      else msg.statement.bindInfo.length) % 2 ^ 32 := by
  have hvalues : msg.hasBindValues = true ↔ msg.firstRow ≠ [] := by
    simpa [hasBinds, hdefine] using hasBinds_iff hdefine
  simp only [numParams, hdefine, Bool.false_eq_true, if_false]
  cases hinfo : msg.statement.bindInfo.isEmpty with
  | false => simp
  | true =>
    by_cases hrow : msg.firstRow = []
    · simp [hvalues, hrow]
    · simp [hvalues, hrow]

/-! ## The layout that is written -/

lemma eq_of_raiseSizes_nil {sizes sizes' : List UInt32} (h : msg.raiseSizes serializers sizes [] = .ok sizes') :
    sizes' = sizes := by
  cases sizes <;> (cases h; rfl)

/-- A value raises the size of its column, and the other values raise the sizes of theirs. -/
lemma exists_of_raiseSizes_cons {sizes sizes' : List UInt32} {value : Value} {row : List Value}
    (h : msg.raiseSizes serializers sizes (value :: row) = .ok sizes') :
    ∃ size rest rest', sizes = size :: rest ∧ msg.raiseSizes serializers rest row = .ok rest' ∧
      sizes' = (if valueSize serializers value > size then valueSize serializers value else size) :: rest' := by
  cases sizes with
  | nil => cases h
  | cons size rest =>
    cases hrest : msg.raiseSizes serializers rest row with
    | error e => simp [raiseSizes, hrest, Except.map] at h
    | ok rest' =>
      simp only [raiseSizes, hrest, Except.map, Except.ok.injEq] at h
      exact ⟨size, rest, rest', rfl, hrest, h.symm⟩

/-- One more row does not change the number of columns. -/
lemma length_raiseSizes {sizes sizes' : List UInt32} {row : List Value}
    (h : msg.raiseSizes serializers sizes row = .ok sizes') : sizes'.length = sizes.length := by
  induction row generalizing sizes sizes' with
  | nil => rw [eq_of_raiseSizes_nil h]
  | cons value row ih =>
    obtain ⟨size, sizes, rest, rfl, hrest, rfl⟩ := exists_of_raiseSizes_cons h
    rw [List.length_cons, List.length_cons, ih hrest]

lemma length_foldlM_raiseSizes {rows : List (List Value)} {sizes sizes' : List UInt32}
    (h : rows.foldlM (msg.raiseSizes serializers) sizes = .ok sizes') :
    sizes'.length = sizes.length := by
  induction rows generalizing sizes with
  | nil => cases h; rfl
  | cons row rows ih =>
    rw [List.foldlM_cons] at h
    cases hrow : msg.raiseSizes serializers sizes row with
    | error e => rw [hrow] at h; cases h
    | ok sizes₁ =>
      rw [hrow] at h
      rw [ih h, length_raiseSizes hrow]

/-- There is one size for every value of the first row. -/
lemma length_binds {sizes : List UInt32} (h : msg.maxSizes serializers = .ok sizes) :
    (msg.binds sizes).length = msg.firstRow.length := by
  have hsizes : sizes.length = msg.firstRow.length := by
    simpa using length_foldlM_raiseSizes h
  simp [binds, hsizes]

/-- What is written of a row of values. -/
lemma yields_writeRowData (row : List Value) : Yields (writeRowData serializers row) fun b =>
    ∃ values, b = rowDataSection values ∧
      List.Forall₂ (fun v => Puts (writeBindValue serializers.toEncoders v)) row values := by
  have hrow := Yields.forM row fun v _ =>
    (grows_writeBindValue serializers.toEncoders v).puts
  refine ((writes_writeU8 MessageType.rowData.code).yields.bind fun _ => hrow).mono ?_
  rintro _ ⟨_, _, rfl, rfl, values, rfl, hvalues⟩
  exact ⟨values, rfl, hvalues⟩

/-- What is written of rows of values. -/
lemma yields_rows (rows : List (List Value)) : Yields (rows.forM (writeRowData serializers))
    fun b => ∃ rowData, b = rowData.flatMap rowDataSection ∧
      List.Forall₂ (List.Forall₂ fun v => Puts (writeBindValue serializers.toEncoders v))
        rows rowData := by
  refine (Yields.forM rows fun row _ => yields_writeRowData row).mono ?_
  rintro _ ⟨sections, rfl, hsections⟩
  induction hsections with
  | nil => exact ⟨[], rfl, .nil⟩
  | cons hrow _ ih =>
    obtain ⟨values, rfl, hvalues⟩ := hrow
    obtain ⟨rowData, hflat, hrows⟩ := ih
    exact ⟨values :: rowData, by rw [List.flatten_cons, hflat, List.flatMap_cons],
      .cons hvalues hrows⟩

/-- What is written of the binds: a metadata entry for every value of the first row, and then the
rows. -/
lemma yields_writeBindParams (h : msg.hasBinds = true) :
    Yields (msg.writeBindParams serializers caps) fun b => ∃ metadata rowData,
      b = metadata.flatten ++ rowData.flatMap rowDataSection ∧
      (msg.emittedBinds serializers).length = msg.firstRow.length ∧
      List.Forall₂ (fun bind => Puts (writeBindMetadata caps bind)) (msg.emittedBinds serializers)
        metadata ∧
      List.Forall₂ (List.Forall₂ fun v => Puts (writeBindValue serializers.toEncoders v))
        msg.emittedRows rowData := by
  simp only [emittedBinds, emittedRows, h, if_true, Bool.true_and]
  cases hsizes : msg.maxSizes serializers with
  | error e =>
    intro s a s' _ hm
    simp only [writeBindParams, hsizes] at hm
    cases hm
  | ok sizes =>
    have hbinds : msg.declaredBinds serializers = msg.binds sizes := by
      rw [declaredBinds, hsizes]
    have hentries := Yields.forM (msg.binds sizes) fun bind _ =>
      (grows_writeBindMetadata caps bind).puts
    have hrows : Yields
        (if !msg.skipRowData then msg.batchBindValues.forM (writeRowData serializers) else pure ())
        fun b => ∃ rowData, b = rowData.flatMap rowDataSection ∧
          List.Forall₂ (List.Forall₂ fun v => Puts (writeBindValue serializers.toEncoders v))
            (if !msg.skipRowData then msg.batchBindValues else []) rowData := by
      split_ifs
      · exact yields_rows _
      · exact (Yields.pure ()).mono fun b hb => ⟨[], hb, .nil⟩
    have hall := hentries.bind fun _ => hrows
    rw [writeBindParams, hsizes, hbinds]
    refine Yields.mono hall ?_
    rintro _ ⟨_, _, rfl, ⟨metadata, rfl, hmetadata⟩, rowData, rfl, hrowData⟩
    exact ⟨metadata, rowData, rfl, length_binds hsizes, hmetadata, hrowData⟩

/-- What is written of a full message has a layout. -/
lemma yields_writeExecuteMessage (serializers : Serializers) (caps : Capabilities)
    (msg : ExecuteMessage) :
    Yields (msg.writeExecuteMessage serializers caps) fun message => ∃ layout,
      msg.MessageLaidOut serializers caps layout message ∧
      (msg.emittedBinds serializers).length = if msg.hasBinds then msg.firstRow.length else 0 := by
  -- the column defines and the binds exclude each other
  have hlast : Yields (if msg.statement.requiresDefine then msg.writeColumnDefines caps
      else if msg.hasBindValues then msg.writeBindParams serializers caps else pure ()) fun b =>
        ∃ defines metadata rowData,
          b = defines ++ (metadata.flatten ++ rowData.flatMap rowDataSection) ∧
          Puts (msg.writeDefines caps) defines ∧
          (msg.emittedBinds serializers).length = (if msg.hasBinds then msg.firstRow.length else 0) ∧
          List.Forall₂ (fun bind => Puts (writeBindMetadata caps bind))
            (msg.emittedBinds serializers) metadata ∧
          List.Forall₂ (List.Forall₂ fun v => Puts (writeBindValue serializers.toEncoders v))
            msg.emittedRows rowData := by
    have hnothing : Puts (pure () : WriteM Unit) [] := (Writes.pure (ε := Error)).puts_iff.mpr rfl
    cases hdefine : msg.statement.requiresDefine with
    | true =>
      have hno : msg.hasBinds = false := by simp [hasBinds, hdefine]
      have hgrows : Yields (msg.writeColumnDefines caps) (Puts (msg.writeColumnDefines caps)) :=
        (Grows.forM _ fun col _ => grows_writeColumnDefine caps col).puts
      refine hgrows.mono fun b hb => ⟨b, [], [], by simp, ?_, ?_, ?_, ?_⟩
      · simpa only [writeDefines, hdefine, if_true] using hb
      · simp [emittedBinds, hno]
      · simp [emittedBinds, hno]
      · simp [emittedRows, hno]
    | false =>
      have hdefines : Puts (msg.writeDefines caps) [] := by
        simpa only [writeDefines, hdefine, Bool.false_eq_true, if_false] using hnothing
      have heq : msg.hasBinds = msg.hasBindValues := by simp [hasBinds, hdefine]
      cases hvalues : msg.hasBindValues with
      | true =>
        have hhas : msg.hasBinds = true := heq.trans hvalues
        refine Yields.mono (yields_writeBindParams hhas) ?_
        rintro _ ⟨metadata, rowData, rfl, hlength, hmetadata, hrowData⟩
        exact ⟨[], metadata, rowData, rfl, hdefines, by simpa [hhas] using hlength, hmetadata,
          hrowData⟩
      | false =>
        have hno : msg.hasBinds = false := heq.trans hvalues
        refine (Yields.pure ()).mono fun b hb => ⟨[], [], [], by simpa using hb, hdefines, ?_, ?_, ?_⟩
        · simp [emittedBinds, hno]
        · simp [emittedBinds, hno]
        · simp [emittedRows, hno]
  have hfields : Yields (msg.writeFields caps) (Puts (msg.writeFields caps)) :=
    ((msg.grows_writeMiddle caps).bind fun _ => msg.grows_writeSql.bind fun _ =>
      msg.grows_writeArray).puts
  have hassoc : msg.writeExecuteMessage serializers caps = (do
      msg.writeHead caps
      msg.writeNumParams
      msg.writeFields caps
      if msg.statement.requiresDefine then msg.writeColumnDefines caps
      else if msg.hasBindValues then msg.writeBindParams serializers caps else pure ()) := by
    simp only [writeExecuteMessage, writeFields, writeMiddle, bind_assoc]
  rw [hassoc]
  refine Yields.mono ((msg.grows_writeHead caps).puts.bind fun _ =>
    (writes_writeNumParams msg).yields.bind fun _ => hfields.bind fun _ => hlast) ?_
  rintro _ ⟨head, _, rfl, hhead, number, _, rfl, hnumber, fields, _, rfl, hfields, defines, metadata,
    rowData, rfl, hdefines, hlength, hmetadata, hrowData⟩
  refine ⟨⟨msg.numParams, metadata, rowData⟩, ⟨head, number, fields, defines, hhead, ⟨?_, ?_⟩,
    hfields, hdefines, hmetadata, hrowData, rfl⟩, hlength⟩
  · exact (writes_writeNumParams msg).puts_iff.mpr hnumber
  · rw [hnumber]
    exact reads_readNumParams _ _

/-! ## When the numbers agree -/

/-- Every packet of a full message has a layout. -/
lemma exists_laidOut (hfull : msg.functionCode = .execute)
    (h : msg.buildRequestWithSdu serializers caps largeSdu = .ok packet) :
    ∃ layout, msg.LaidOut serializers caps largeSdu layout packet ∧
      (msg.emittedBinds serializers).length = if msg.hasBinds then msg.firstRow.length else 0 := by
  have hyields := msg.yields_writeExecuteMessage serializers caps
  have hmessage : msg.writeMessage serializers caps = msg.writeExecuteMessage serializers caps :=
    if_pos hfull
  rw [← hmessage] at hyields
  obtain ⟨message, ⟨layout, hlayout, hlength⟩, hpacket⟩ :=
    msg.exists_message_of_build serializers caps h hyields
  exact ⟨layout, ⟨message, hlayout, hpacket⟩, hlength⟩

/-- Two lists whose members are related have the same lengths of members. -/
private lemma forall_length_iff {R : Value → Bytes → Prop} {rows : List (List Value)}
    {rowData : List (List Bytes)} (h : List.Forall₂ (List.Forall₂ R) rows rowData) (n : ℕ) :
    (∀ values ∈ rowData, values.length = n) ↔ ∀ row ∈ rows, row.length = n := by
  induction h with
  | nil => simp
  | cons hrow _ ih => simp [ih, hrow.length_eq]

/-- A layout of the message is consistent if and only if the declared number is that of the binds,
and every row has as many values. -/
lemma consistent_iff (h : msg.LaidOut serializers caps largeSdu layout packet) :
    layout.Consistent ↔ msg.numParams.toNat = (msg.emittedBinds serializers).length ∧
      ∀ row ∈ msg.emittedRows, row.length = msg.numParams.toNat := by
  obtain ⟨message, ⟨head, number, fields, defines, -, ⟨hnumber, hreads⟩, -, -, hmetadata, hrowData, -⟩,
    -⟩ := h
  rw [BindLayout.Consistent, declared_eq hnumber hreads, ← hmetadata.length_eq,
    forall_length_iff hrowData]

/-- The three numbers agree if and only if the placeholders and the rows match. -/
lemma consistent_iff_bindsMatch (h : msg.LaidOut serializers caps largeSdu layout packet)
    (hlength : (msg.emittedBinds serializers).length =
      if msg.hasBinds then msg.firstRow.length else 0) :
    layout.Consistent ↔ msg.BindsMatch := by
  rw [consistent_iff h, hlength, BindsMatch]
  cases hdefine : msg.statement.requiresDefine with
  | true =>
    have hno : msg.hasBinds = false := by simp [hasBinds, hdefine]
    simp [hno, numParams, hdefine, emittedRows]
  | false =>
    rw [← toNat_numParams hdefine]
    by_cases hrow : msg.firstRow = []
    · have hno : msg.hasBinds = false := by
        rw [Bool.eq_false_iff, Ne, hasBinds_iff hdefine]
        exact not_not.mpr hrow
      have hcomm : msg.numParams.toNat = 0 ↔ 0 = msg.numParams.toNat := eq_comm
      simp [hno, hrow, emittedRows, hcomm]
    · have hhas : msg.hasBinds = true := (hasBinds_iff hdefine).mpr hrow
      cases hskip : msg.skipRowData with
      | true =>
        have hcomm : msg.numParams.toNat = msg.firstRow.length ↔
            msg.firstRow.length = msg.numParams.toNat := eq_comm
        simp [hhas, emittedRows, hskip, hcomm]
      | false =>
        simp only [hhas, emittedRows, hskip, if_true, Bool.not_false, Bool.and_self,
          Bool.false_eq_true, false_or, hrow]
        constructor
        · rintro ⟨hn, hrows⟩
          exact ⟨hn.symm, fun row hmem => (hrows row hmem).trans hn⟩
        · rintro ⟨hn, hrows⟩
          exact ⟨hn.symm, fun row hmem => (hrows row hmem).trans hn⟩

/-- For every packet of a full execute message, the number of binds in the header, the number of
metadata entries and the numbers of values in the sections of row data are the same if and only if
the placeholders and the rows match. -/
theorem bindsAgree_iff (serializers : Serializers) (caps : Capabilities) (msg : ExecuteMessage)
    (largeSdu : Bool) (packet : Bytes) (hfull : msg.functionCode = .execute)
    (h : msg.buildRequestWithSdu serializers caps largeSdu = .ok packet) :
    msg.BindsAgree serializers caps largeSdu packet ↔ msg.BindsMatch := by
  obtain ⟨layout, hlayout, hlength⟩ := exists_laidOut hfull h
  constructor
  · rintro ⟨layout', hlayout', hconsistent⟩
    exact (consistent_iff_bindsMatch hlayout' hlength).mp hconsistent
  · intro hmatch
    exact ⟨layout, hlayout, (consistent_iff_bindsMatch hlayout hlength).mpr hmatch⟩

/-- A query with one placeholder: `SELECT :1 FROM DUAL`. -/
def placeholderQuery : Statement :=
  { sql := "SELECT :1 FROM DUAL", statementType := .query, bindInfo := [⟨"1", false⟩] }

/-- With a value for its placeholder the numbers in the message of the query agree. -/
theorem bindsAgree_placeholderQuery : ∃ packet,
    ((new placeholderQuery (.forQuery 100)).setBindValues [.null]).buildRequestWithSdu .rejecting {} false =
      .ok packet ∧
    ((new placeholderQuery (.forQuery 100)).setBindValues [.null]).BindsAgree .rejecting {} false packet :=
  ⟨_, rfl, (bindsAgree_iff .rejecting {} _ false _ rfl rfl).mpr (Or.inr ⟨rfl, by decide⟩)⟩

/-- Without values the query is built all the same, with one bind in its header and no metadata. -/
theorem not_bindsAgree : ¬∀ (serializers : Serializers) (caps : Capabilities) (msg : ExecuteMessage)
    (largeSdu : Bool) (packet : Bytes), msg.functionCode = .execute →
      msg.buildRequestWithSdu serializers caps largeSdu = .ok packet →
      msg.BindsAgree serializers caps largeSdu packet := by
  intro hall
  obtain ⟨layout, hlayout, hconsistent⟩ :=
    hall .rejecting {} (new placeholderQuery (.forQuery 100)) false _ rfl rfl
  have hone := (consistent_iff hlayout).mp hconsistent
  exact absurd hone.1 (by decide)

end ExecuteMessage

end OracleRs
