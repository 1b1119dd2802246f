import OracleRs.Response.ErrorInfo
import OracleRs.Types.Value

set_option relaxedAutoImplicit false
set_option autoImplicit false

/-!
# Column metadata

The messages of a response that describe columns: describe information (type 16), the I/O vector
of a PL/SQL call (type 11) and implicit result sets (type 27).

## Main definitions

* `OracleRs.parseDescribeInfo`, `OracleRs.parseIoVector`, `OracleRs.parseImplicitResults` — the
  readers.
* `OracleRs.DescribeInfo`, `OracleRs.IoVector`, `OracleRs.ImplicitResultWire` — the messages as a
  server may write them.

## Main results

* `OracleRs.DescribeInfo.reads_parseDescribeInfo`, `OracleRs.IoVector.reads_parseIoVector`,
  `OracleRs.ImplicitResultWire.reads_parseImplicitResults` — every message is read exactly.
-/

namespace OracleRs

open Cursor

/-! ## Describe information -/

/-- An annotation of a column: key, value and flags. -/
def skipAnnotation : ReadM Unit := do
  let _key ← readStringWithUb4Length
  let _value ← readStringWithUb4Length
  skipUb4

/-- The annotations of a column, whose number is read twice. -/
def skipAnnotations : ReadM Unit := do
  let numAnnotations ← readUb4
  if numAnnotations > 0 then do
    skipUb1
    let actualNum ← readUb4
    skipUb1
    let _annotations ← times skipAnnotation actualNum.toNat
    skipUb4 -- final flags
  else
    return

/-- Fields that are there from some field version on. -/
def since (present : Bool) (m : ReadM Unit) : ReadM Unit := if present then m else return

/-- The domain of a column. -/
def skipDomain : ReadM Unit := do
  let _domainSchema ← readStringWithUb4Length
  let _domainName ← readStringWithUb4Length

/-- The vector fields of a column. -/
def skipVectorFields : ReadM Unit := do
  skipUb4 -- dimensions
  skipUb1 -- format
  skipUb1 -- flags

/-- The metadata of one column, in the loop of `parse_describe_info`. -/
def readColumnInfo (ttcFieldVersion : UInt8) : ReadM ColumnInfo := do
  let oraTypeNum ← readU8
  skipUb1 -- flags
  let precision ← readU8
  let scale ← readU8
  let bufferSize ← readUb4
  skipUb4 -- maximum number of array elements
  skipUb8 -- continuation flags
  let _oid ← readBytesWithLength
  skipUb2 -- version
  skipUb2 -- character set id
  let csfrm ← readU8
  let maxSize ← readUb4
  since (ttcFieldVersion ≥ fieldVersion12_2) skipUb4 -- oaccolid
  let _nullsAllowed ← readU8
  skipUb1 -- length of the name
  let name ← readStringWithUb4Length
  let schema ← readStringWithUb4Length
  let typeName ← readStringWithUb4Length
  skipUb2 -- column position
  skipUb4 -- uds flags
  since (ttcFieldVersion ≥ fieldVersion23_1) skipDomain
  since (ttcFieldVersion ≥ 20) skipAnnotations
  since (ttcFieldVersion ≥ fieldVersion23_4) skipVectorFields
  return { ColumnInfo.new (name.getD "") ((OracleType.tryFrom oraTypeNum).getD .varchar) with
    dataSize := if maxSize > 0 then maxSize else bufferSize
    bufferSize := bufferSize
    precision := Int16.ofNat precision.toNat
    scale := Int16.ofNat scale.toNat
    csfrm := csfrm
    typeSchema := schema.filter (· ≠ "")
    typeName := typeName.filter (· ≠ "") }

/-- `parse_describe_info`. -/
def parseDescribeInfo (ttcFieldVersion : UInt8) : ReadM (List ColumnInfo) := do
  skipUb4 -- maximum row size
  let numColumns ← readUb4
  if numColumns = 0 then
    return []
  skipUb1
  let columns ← times (readColumnInfo ttcFieldVersion) numColumns.toNat
  let _currentDate ← indicated4 skipRawBytesChunked
  skipUb4 -- dcbflag
  skipUb4 -- dcbmdbz
  skipUb4 -- dcbmnpr
  skipUb4 -- dcbmxpr
  let _dcbqcky ← indicated4 skipRawBytesChunked
  return columns

/-- An annotation as a server writes it. -/
structure Annotation where
  /-- the key -/
  key : IndicatedText
  /-- the value -/
  value : IndicatedText
  /-- flags -/
  flags : Ub 4

namespace Annotation

/-- The bytes on the wire. -/
def encode (a : Annotation) : Bytes :=
  IndicatedText.encode a.key ++ (IndicatedText.encode a.value ++ a.flags.encode)

lemma reads_skipAnnotation (a : Annotation) : Reads skipAnnotation a.encode () := by
  refine (IndicatedText.reads_readStringWithUb4Length a.key).bind ?_
  refine (IndicatedText.reads_readStringWithUb4Length a.value).bind ?_
  exact a.flags.reads_skipUb (by omega)

end Annotation

/-- The annotations of a column as a server writes them. -/
structure Annotations where
  /-- a byte -/
  marker : UInt8
  /-- the annotations behind their number -/
  items : Listed 4 Annotation
  /-- a byte between the number and the annotations -/
  marker' : UInt8
  /-- flags -/
  flags : Ub 4

namespace Annotations

/-- The bytes on the wire. -/
def encode (a : Annotations) : Bytes :=
  [a.marker] ++ (a.items.size.encode ++ ([a.marker'] ++
    (a.items.items.flatMap Annotation.encode ++ a.flags.encode)))

end Annotations

/-- Annotations are stepped over exactly. -/
lemma reads_skipAnnotations (i : Indicated 4 Annotations) :
    Reads skipAnnotations (i.encode Annotations.encode) () := by
  cases i with
  | absent u h =>
    refine u.reads_readUb4.bind_nil ?_
    rw [if_neg (by simp [h])]
    exact Reads.pure ()
  | present u h a =>
    refine u.reads_readUb4.bind ?_
    rw [if_pos (u.value4_pos_iff.mpr h)]
    refine (reads_skipUb1 a.marker).bind ?_
    refine a.items.size.reads_readUb4.bind ?_
    refine (reads_skipUb1 a.marker').bind ?_
    rw [a.items.size.toNat_value4, a.items.size_eq]
    refine (Reads.times fun w _ => Annotation.reads_skipAnnotation w).bind ?_
    exact a.flags.reads_skipUb (by omega)

/-- Bytes that are there from some field version on. -/
def encodeSince (present : Bool) (b : Bytes) : Bytes := if present then b else []

lemma reads_since {m : ReadM Unit} {b : Bytes} (h : Reads m b ()) (present : Bool) :
    Reads (since present m) (encodeSince present b) () := by
  cases present with
  | true => exact h
  | false => exact Reads.pure ()

/-- The metadata of a column as a server may write it. -/
structure ColumnWire where
  /-- the code of the data type -/
  oraTypeNum : UInt8
  /-- flags -/
  flags : UInt8
  /-- precision -/
  precision : UInt8
  /-- scale -/
  scale : UInt8
  /-- buffer size -/
  bufferSize : Ub 4
  /-- maximum number of array elements -/
  maxElements : Ub 4
  /-- continuation flags -/
  contFlags : Ub 8
  /-- the object id of the type -/
  oid : Option ByteString
  /-- version -/
  version : Ub 2
  /-- character set id -/
  charsetId : Ub 2
  /-- character set form -/
  csfrm : UInt8
  /-- maximum size -/
  maxSize : Ub 4
  /-- since 12.2 -/
  oaccolid : Ub 4
  /-- are NULL values allowed? -/
  nullsAllowed : UInt8
  /-- length of the name -/
  nameLength : UInt8
  /-- name -/
  name : IndicatedText
  /-- schema of the type -/
  schema : IndicatedText
  /-- name of the type -/
  typeName : IndicatedText
  /-- position of the column -/
  columnPosition : Ub 2
  /-- flags -/
  udsFlags : Ub 4
  /-- domain schema, since 23.1 -/
  domainSchema : IndicatedText
  /-- domain name, since 23.1 -/
  domainName : IndicatedText
  /-- annotations, since 23.1 -/
  annotations : Indicated 4 Annotations
  /-- dimensions of a vector, since 23.4 -/
  vectorDimensions : Ub 4
  /-- format of a vector, since 23.4 -/
  vectorFormat : UInt8
  /-- flags of a vector, since 23.4 -/
  vectorFlags : UInt8

namespace ColumnWire

/-- The bytes on the wire, as a server with the given field version writes them. -/
def encode (ttcFieldVersion : UInt8) (c : ColumnWire) : Bytes :=
  [c.oraTypeNum] ++ ([c.flags] ++ ([c.precision] ++ ([c.scale] ++ (c.bufferSize.encode ++
    (c.maxElements.encode ++ (c.contFlags.encode ++ (encodeNullable c.oid ++
    (c.version.encode ++ (c.charsetId.encode ++ ([c.csfrm] ++ (c.maxSize.encode ++
    (encodeSince (ttcFieldVersion ≥ fieldVersion12_2) c.oaccolid.encode ++ ([c.nullsAllowed] ++
    ([c.nameLength] ++ (IndicatedText.encode c.name ++ (IndicatedText.encode c.schema ++
    (IndicatedText.encode c.typeName ++ (c.columnPosition.encode ++ (c.udsFlags.encode ++
    (encodeSince (ttcFieldVersion ≥ fieldVersion23_1)
      (IndicatedText.encode c.domainSchema ++ IndicatedText.encode c.domainName) ++
    (encodeSince (ttcFieldVersion ≥ 20) (c.annotations.encode Annotations.encode) ++
    encodeSince (ttcFieldVersion ≥ fieldVersion23_4)
      (c.vectorDimensions.encode ++ [c.vectorFormat, c.vectorFlags]))))))))))))))))))))))

/-- The column described. -/
def info (c : ColumnWire) : ColumnInfo :=
  let maxSize := UInt32.ofNat c.maxSize.value
  let bufferSize := UInt32.ofNat c.bufferSize.value
  { ColumnInfo.new ((c.name.value?.map (·.text)).getD "")
      ((OracleType.tryFrom c.oraTypeNum).getD .varchar) with
    dataSize := if maxSize > 0 then maxSize else bufferSize
    bufferSize := bufferSize
    precision := Int16.ofNat c.precision.toNat
    scale := Int16.ofNat c.scale.toNat
    csfrm := c.csfrm
    typeSchema := (c.schema.value?.map (·.text)).filter (· ≠ "")
    typeName := (c.typeName.value?.map (·.text)).filter (· ≠ "") }

lemma reads_readColumnInfo (c : ColumnWire) (version : UInt8) :
    Reads (readColumnInfo version) (c.encode version) c.info := by
  have hdomain : Reads skipDomain
      (IndicatedText.encode c.domainSchema ++ IndicatedText.encode c.domainName) () := by
    refine (IndicatedText.reads_readStringWithUb4Length c.domainSchema).bind ?_
    exact (IndicatedText.reads_readStringWithUb4Length c.domainName).bind_nil (Reads.pure ())
  have hvector : Reads skipVectorFields
      (c.vectorDimensions.encode ++ [c.vectorFormat, c.vectorFlags]) () := by
    refine (c.vectorDimensions.reads_skipUb (by omega)).bind ?_
    exact (reads_skipUb1 c.vectorFormat).bind (reads_skipUb1 c.vectorFlags)
  refine (reads_readU8 c.oraTypeNum).bind ?_
  refine (reads_skipUb1 c.flags).bind ?_
  refine (reads_readU8 c.precision).bind ?_
  refine (reads_readU8 c.scale).bind ?_
  refine c.bufferSize.reads_readUb4.bind ?_
  refine (c.maxElements.reads_skipUb (by omega)).bind ?_
  refine (c.contFlags.reads_skipUb (by omega)).bind ?_
  refine (reads_readBytesWithLength c.oid).bind ?_
  refine (c.version.reads_skipUb (by omega)).bind ?_
  refine (c.charsetId.reads_skipUb (by omega)).bind ?_
  refine (reads_readU8 c.csfrm).bind ?_
  refine c.maxSize.reads_readUb4.bind ?_
  refine (reads_since (c.oaccolid.reads_skipUb (by omega)) _).bind ?_
  refine (reads_readU8 c.nullsAllowed).bind ?_
  refine (reads_skipUb1 c.nameLength).bind ?_
  refine (IndicatedText.reads_readStringWithUb4Length c.name).bind ?_
  refine (IndicatedText.reads_readStringWithUb4Length c.schema).bind ?_
  refine (IndicatedText.reads_readStringWithUb4Length c.typeName).bind ?_
  refine (c.columnPosition.reads_skipUb (by omega)).bind ?_
  refine (c.udsFlags.reads_skipUb (by omega)).bind ?_
  refine (reads_since hdomain _).bind ?_
  refine (reads_since (reads_skipAnnotations c.annotations) _).bind ?_
  exact (reads_since hvector _).bind_nil (Reads.pure _)

/-- A column with a name and a data type and nothing else. -/
def plain (name : IndicatedText) (oraTypeNum : UInt8) : ColumnWire where
  oraTypeNum := oraTypeNum
  flags := 0
  precision := 0
  scale := 0
  bufferSize := Ub.zero
  maxElements := Ub.zero
  contFlags := Ub.zero
  oid := none
  version := Ub.zero
  charsetId := Ub.zero
  csfrm := 0
  maxSize := Ub.zero
  oaccolid := Ub.zero
  nullsAllowed := 1
  nameLength := 0
  name := name
  schema := Indicated.none
  typeName := Indicated.none
  columnPosition := Ub.zero
  udsFlags := Ub.zero
  domainSchema := Indicated.none
  domainName := Indicated.none
  annotations := Indicated.none
  vectorDimensions := Ub.zero
  vectorFormat := 0
  vectorFlags := 0

end ColumnWire

/-- Describe information as a server may write it: there is at least one column. -/
structure DescribeInfo where
  /-- maximum row size -/
  maxRowSize : Ub 4
  /-- the columns behind their number -/
  columns : Listed 4 ColumnWire
  /-- there is a column -/
  ne_nil : columns.items ≠ []
  /-- the byte in front of the columns -/
  marker : UInt8
  /-- the current date -/
  currentDate : Indicated 4 ByteString
  /-- four numbers -/
  dcbflag : Ub 4
  dcbmdbz : Ub 4
  dcbmnpr : Ub 4
  dcbmxpr : Ub 4
  /-- raw bytes -/
  dcbqcky : Indicated 4 ByteString

namespace DescribeInfo

/-- The bytes on the wire, as a server with the given field version writes them. -/
def encode (ttcFieldVersion : UInt8) (d : DescribeInfo) : Bytes :=
  d.maxRowSize.encode ++ (d.columns.size.encode ++ ([d.marker] ++
    (d.columns.items.flatMap (ColumnWire.encode ttcFieldVersion) ++
    (d.currentDate.encode ByteString.encode ++ (d.dcbflag.encode ++ (d.dcbmdbz.encode ++
    (d.dcbmnpr.encode ++ (d.dcbmxpr.encode ++ d.dcbqcky.encode ByteString.encode))))))))

/-- Describe information about one column. -/
def single (c : ColumnWire) : DescribeInfo where
  maxRowSize := Ub.zero
  columns := ⟨Ub.byte 1, [c], rfl⟩
  ne_nil := by simp
  marker := 0
  currentDate := Indicated.none
  dcbflag := Ub.zero
  dcbmdbz := Ub.zero
  dcbmnpr := Ub.zero
  dcbmxpr := Ub.zero
  dcbqcky := Indicated.none

/-- The columns described. -/
def infos (d : DescribeInfo) : List ColumnInfo := d.columns.items.map ColumnWire.info

/-- Describe information is read exactly. -/
lemma reads_parseDescribeInfo (d : DescribeInfo) (version : UInt8) :
    Reads (parseDescribeInfo version) (d.encode version) d.infos := by
  have hne : d.columns.size.value ≠ 0 := by simpa [d.columns.size_eq] using d.ne_nil
  have hsize : UInt32.ofNat d.columns.size.value ≠ 0 := by
    intro h
    have := d.columns.size.toNat_value4
    rw [h] at this
    exact hne this.symm
  refine (d.maxRowSize.reads_skipUb (by omega)).bind ?_
  refine d.columns.size.reads_readUb4.bind ?_
  rw [if_neg hsize]
  refine (reads_skipUb1 d.marker).bind ?_
  rw [d.columns.size.toNat_value4, d.columns.size_eq]
  refine (Reads.times fun c _ => ColumnWire.reads_readColumnInfo c version).bind ?_
  refine (d.currentDate.reads_indicated4 ByteString.reads_skipRawBytesChunked).bind ?_
  refine (d.dcbflag.reads_skipUb (by omega)).bind ?_
  refine (d.dcbmdbz.reads_skipUb (by omega)).bind ?_
  refine (d.dcbmnpr.reads_skipUb (by omega)).bind ?_
  refine (d.dcbmxpr.reads_skipUb (by omega)).bind ?_
  exact (d.dcbqcky.reads_indicated4 ByteString.reads_skipRawBytesChunked).bind_nil (Reads.pure _)

end DescribeInfo

/-! ## I/O vectors -/

/-- A bind parameter (`BindParam`). -/
structure BindParam where
  /-- the value, if there is one -/
  value : Option Value
  /-- the direction -/
  direction : BindDirection
  /-- the Oracle type -/
  oracleType : OracleType
  /-- the buffer size for OUT parameters -/
  bufferSize : UInt32

/-- The low byte of an integer attribute of a placeholder. -/
def DbObject.code? (o : DbObject) (name : String) : Option UInt8 :=
  match o.get name with
  | some (.integer n) => some (UInt8.ofInt n.toInt)
  | _ => none

/-- The column with which the value of the OUT parameter at position `i` is read. -/
def outColumn (i : ℕ) (param : BindParam) : ColumnInfo :=
  let col := { ColumnInfo.new ("OUT_" ++ toString i) param.oracleType with
    bufferSize := param.bufferSize
    dataSize := param.bufferSize
    nullable := true }
  match param.value with
  | some (.collection placeholder) =>
    { col with
      typeSchema := (placeholder.get "_type_schema").bind Value.asStr
      typeName := (placeholder.get "_type_name").bind Value.asStr
      elementType := (placeholder.code? "_element_type").bind OracleType.tryFrom
      collectionType := (placeholder.code? "_collection_type").bind CollectionType.ofCode }
  | _ => col

/-- The direction byte of a parameter: an OUT parameter gives its position and column. -/
def readBindDirection (param : BindParam × ℕ) : ReadM (Option (ℕ × ColumnInfo)) := do
  let dir := (BindDirection.tryFrom (← readU8)).getD .input
  return if dir ≠ .input then some (param.2, outColumn param.2 param.1) else none

/-- `parse_io_vector`: the positions of the OUT parameters and their columns. -/
def parseIoVector (params : List BindParam) : ReadM (List ℕ × List ColumnInfo) := do
  skip 1 -- flag
  let numRequests := (← readUb2).toUInt32
  let numIters ← readUb4
  let numBinds := numIters * 256 + numRequests
  let _itersThisTime ← readUb4
  let _uacBufferLength ← readUb2
  skipCounted2 -- bit vector
  skipCounted2 -- row id
  let outs ← each readBindDirection (params.zipIdx.take (min numBinds.toNat params.length))
  let outs := outs.filterMap id
  return (outs.map (·.1), outs.map (·.2))

/-- The OUT parameters among those that have a direction, with their columns. -/
def outsOf (params : List BindParam) (directions : Bytes) : List (ℕ × ColumnInfo) :=
  (params.zipIdx.zip directions).filterMap fun p =>
    if (BindDirection.tryFrom p.2).getD .input ≠ .input then
      some (p.1.2, outColumn p.1.2 p.1.1)
    else
      none

/-- As many directions are read as there are both declared binds and parameters. -/
lemma reads_parseIoVector_directions {params : List BindParam} (flag : UInt8) (numRequests : Ub 2)
    (numIters itersThisTime : Ub 4) (uacBufferLength : Ub 2) (bitVector rowid : Counted 2)
    {directions : Bytes} (h : min (UInt32.ofNat numIters.value * 256 +
      (UInt16.ofNat numRequests.value).toUInt32).toNat params.length = directions.length) :
    Reads (parseIoVector params)
      ([flag] ++ (numRequests.encode ++ (numIters.encode ++ (itersThisTime.encode ++
        (uacBufferLength.encode ++ (bitVector.encode ++ (rowid.encode ++ directions)))))))
      ((outsOf params directions).map (·.1), (outsOf params directions).map (·.2)) := by
  have htake : (params.zipIdx.take directions.length).length = directions.length := by
    rw [List.length_take, List.length_zipIdx]
    omega
  have hzip : (params.zipIdx.take directions.length).zip directions = params.zipIdx.zip directions := by
    have hmin : min params.zipIdx.length directions.length = directions.length := by
      rw [List.length_zipIdx]
      omega
    conv_rhs => rw [List.zip_eq_zip_take_min, hmin, List.take_length]
  have hdir : ∀ w ∈ params.zipIdx.zip directions, Reads (readBindDirection w.1) [w.2]
      (if (BindDirection.tryFrom w.2).getD .input ≠ .input then
        some (w.1.2, outColumn w.1.2 w.1.1) else none) :=
    fun w _ => (reads_readU8 w.2).bind_nil (Reads.pure _)
  have hdirs := Reads.each hdir
  rw [← hzip, List.map_fst_zip htake.le] at hdirs
  have henc : ((params.zipIdx.take directions.length).zip directions).flatMap (fun w => [w.2]) =
      directions := by
    rw [← List.map_eq_flatMap, List.map_snd_zip htake.ge]
  rw [henc, hzip] at hdirs
  refine (reads_skip_one flag).bind ?_
  refine numRequests.reads_readUb2.bind ?_
  refine numIters.reads_readUb4.bind ?_
  refine itersThisTime.reads_readUb4.bind ?_
  refine uacBufferLength.reads_readUb2.bind ?_
  refine bitVector.reads_skipCounted2.bind ?_
  refine rowid.reads_skipCounted2.bind ?_
  rw [h]
  refine hdirs.bind_nil ?_
  simp only [List.filterMap_map, outsOf, Function.comp_def, id]
  exact Reads.pure _

/-- An I/O vector as a server may write it: one direction for every parameter. -/
structure IoVector (params : List BindParam) where
  /-- a flag -/
  flag : UInt8
  /-- number of requests: the number of parameters modulo 256 -/
  numRequests : Ub 2
  /-- number of iterations: the number of parameters divided by 256 -/
  numIters : Ub 4
  /-- iterations this time -/
  itersThisTime : Ub 4
  /-- buffer length -/
  uacBufferLength : Ub 2
  /-- bit vector -/
  bitVector : Counted 2
  /-- row id -/
  rowid : Counted 2
  /-- the directions -/
  directions : Bytes
  /-- there is one direction for every parameter -/
  length_eq : directions.length = params.length
  /-- the number of parameters is the one written -/
  binds_eq : (UInt32.ofNat numIters.value * 256 +
    (UInt16.ofNat numRequests.value).toUInt32).toNat = params.length

namespace IoVector

variable {params : List BindParam}

/-- The bytes behind the message type. -/
def encode (v : IoVector params) : Bytes :=
  [v.flag] ++ (v.numRequests.encode ++ (v.numIters.encode ++ (v.itersThisTime.encode ++
    (v.uacBufferLength.encode ++ (v.bitVector.encode ++ (v.rowid.encode ++ v.directions))))))

/-- The OUT parameters with their columns. -/
def outs (v : IoVector params) : List (ℕ × ColumnInfo) := outsOf params v.directions

/-- The columns of the OUT parameters. -/
def outColumns (v : IoVector params) : List ColumnInfo := v.outs.map (·.2)

/-- An I/O vector is read exactly. -/
lemma reads_parseIoVector (v : IoVector params) :
    Reads (parseIoVector params) v.encode (v.outs.map (·.1), v.outColumns) :=
  reads_parseIoVector_directions v.flag v.numRequests v.numIters v.itersThisTime v.uacBufferLength
    v.bitVector v.rowid (by rw [v.binds_eq, v.length_eq, min_self])

end IoVector

/-! ## Implicit result sets -/

/-- An implicit result set: a cursor and its columns, not fetched yet (`ImplicitResult`). -/
structure ImplicitResult where
  /-- the cursor id -/
  cursorId : UInt16
  /-- the columns -/
  columns : List ColumnInfo
  /-- the rows -/
  rows : List Row

/-- One result set in the loop of `parse_implicit_results`. -/
def readImplicitResult (ttcFieldVersion : UInt8) : ReadM ImplicitResult := do
  let numBytes ← readU8
  skip numBytes.toNat
  let columns ← parseDescribeInfo ttcFieldVersion
  let cursorId ← readUb2
  return ⟨cursorId, columns, []⟩

/-- `parse_implicit_results`. -/
def parseImplicitResults (ttcFieldVersion : UInt8) : ReadM (List ImplicitResult) := do
  let numResults ← readUb4
  times (readImplicitResult ttcFieldVersion) numResults.toNat

/-- An implicit result set as a server may write it. -/
structure ImplicitResultWire where
  /-- metadata to skip -/
  metadata : Bytes
  /-- the metadata has a length of one byte -/
  le : metadata.length ≤ 255
  /-- the columns -/
  describe : DescribeInfo
  /-- the cursor id -/
  cursorId : Ub 2

namespace ImplicitResultWire

/-- The bytes on the wire, as a server with the given field version writes them. -/
def encode (ttcFieldVersion : UInt8) (w : ImplicitResultWire) : Bytes :=
  [UInt8.ofNat w.metadata.length] ++ (w.metadata ++
    (w.describe.encode ttcFieldVersion ++ w.cursorId.encode))

/-- The result set described. -/
def result (w : ImplicitResultWire) : ImplicitResult :=
  ⟨UInt16.ofNat w.cursorId.value, w.describe.infos, []⟩

lemma reads_readImplicitResult (w : ImplicitResultWire) (version : UInt8) :
    Reads (readImplicitResult version) (w.encode version) w.result := by
  have hlen : (UInt8.ofNat w.metadata.length).toNat = w.metadata.length := by
    have := w.le
    rw [UInt8.toNat_ofNat', Nat.mod_eq_of_lt (by omega)]
  refine (reads_readU8 _).bind ?_
  rw [hlen]
  refine (reads_skip w.metadata).bind ?_
  refine (w.describe.reads_parseDescribeInfo version).bind ?_
  exact w.cursorId.reads_readUb2.bind_nil (Reads.pure _)

/-- Implicit result sets are read exactly. -/
lemma reads_parseImplicitResults (l : Listed 4 ImplicitResultWire) (version : UInt8) :
    Reads (parseImplicitResults version) (l.encode (encode version)) (l.items.map result) := by
  refine l.size.reads_readUb4.bind ?_
  rw [l.size.toNat_value4, l.size_eq]
  exact Reads.times fun w _ => reads_readImplicitResult w version

end ImplicitResultWire

end OracleRs
