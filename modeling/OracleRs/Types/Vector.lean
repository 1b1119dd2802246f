import OracleRs.Types.Value

set_option relaxedAutoImplicit false
set_option autoImplicit false

/-!
# Oracle VECTOR

The codec of `types/vector.rs`. A vector is a header of seventeen bytes with the element format and the
number of elements, then the elements; in front of the elements of a sparse vector stand their number in
two bytes and their indices. The header of the encoder has two of the flags for the norm, whose eight
bytes are zero.

The encoder narrows the number of elements to the width of its field. The vector is read back if and only
if nothing is lost.

## Main definitions

* `OracleRs.VectorFormat` — the element formats.
* `OracleRs.decodeVector`, `OracleRs.encodeVector` — the codec.
* `OracleRs.OracleVector.Aligned`, `OracleRs.OracleVector.CountFits` — an index for each element, and a
  number of elements that fits its field.

## Main results

* `OracleRs.decodeVectorValues_encodeVectorValues` — the elements of every format are read back.
* `OracleRs.decodeVector_encodeVector_iff` — when the vector is read back.
-/

namespace OracleRs

open BigEndian

/-! ## Formats -/

/-- `VECTOR_MAGIC_BYTE`. -/
def vectorMagicByte : UInt8 := 0xDB

/-- `VECTOR_VERSION_BASE`. -/
def vectorVersionBase : UInt8 := 0

/-- `VECTOR_VERSION_WITH_BINARY`. -/
def vectorVersionWithBinary : UInt8 := 1

/-- `VECTOR_VERSION_WITH_SPARSE`. -/
def vectorVersionWithSparse : UInt8 := 2

/-- `VECTOR_FLAG_NORM`. -/
def vectorFlagNorm : UInt16 := 0x0002

/-- `VECTOR_FLAG_NORM_RESERVED`. -/
def vectorFlagNormReserved : UInt16 := 0x0010

/-- `VECTOR_FLAG_SPARSE`. -/
def vectorFlagSparse : UInt16 := 0x0020

/-- The element formats (`VectorFormat`). -/
inductive VectorFormat where
  | float32
  | float64
  | int8
  | binary
deriving DecidableEq, Repr, Inhabited

namespace VectorFormat

/-- `from_wire`. -/
def fromWire (value : UInt8) : Except Error VectorFormat :=
  match value with
  | 2 => .ok float32
  | 3 => .ok float64
  | 4 => .ok int8
  | 5 => .ok binary
  | _ => .error (.protocol s!"Unsupported vector format: {value}")

/-- `to_wire`. -/
def toWire : VectorFormat → UInt8
  | float32 => 2
  | float64 => 3
  | int8 => 4
  | binary => 5

@[simp] lemma fromWire_toWire (format : VectorFormat) : fromWire format.toWire = .ok format := by
  cases format <;> rfl

end VectorFormat

namespace VectorData

/-- `format`. -/
def format : VectorData → VectorFormat
  | float32 _ => .float32
  | float64 _ => .float64
  | int8 _ => .int8
  | binary _ => .binary

/-- The number of elements (`len`); those of a binary vector are bits. -/
def len : VectorData → ℕ
  | float32 values => values.length
  | float64 values => values.length
  | int8 values => values.length
  | binary values => values.length * 8

end VectorData

/-! ## Decoding -/

/-- The loop that the items of a vector are read with: each is of `width` bytes, the first at the given
position. -/
def readItems {α : Type} (width : ℕ) (decode : Bytes → α) (truncated : String) (data : Bytes) :
    ℕ → ℕ → Except Error (List α)
  | 0, _ => .ok []
  | n + 1, pos =>
    if data.length < pos + width then .error (.protocol truncated)
    else do
      let items ← readItems width decode truncated data n (pos + width)
      return decode ((data.drop pos).take width) :: items

/-- The elements of a dense or sparse vector (`decode_vector_values`). -/
def decodeVectorValues (data : Bytes) (numElements : ℕ) : VectorFormat → Except Error VectorData
  | .float32 =>
    .float32 <$> readItems 4 decodeBinaryFloat "Vector FLOAT32 data truncated" data numElements 0
  | .float64 =>
    .float64 <$> readItems 8 decodeBinaryDouble "Vector FLOAT64 data truncated" data numElements 0
  | .int8 =>
    .int8 <$> readItems 1 (fun bs => (bs.getD 0 0).toInt8) "Vector INT8 data truncated" data
      numElements 0
  | .binary =>
    -- the number of elements is that of the bits
    .binary <$> readItems 1 (fun bs => bs.getD 0 0) "Vector BINARY data truncated" data
      (numElements / 8) 0

/-- A hexadecimal digit as `{:X}` writes it. -/
def hexDigit (n : ℕ) : Char := "0123456789ABCDEF".toList.getD n '0'

/-- A byte as `0x{:02X}` writes it. -/
def hexByte (b : UInt8) : String :=
  String.ofList ['0', 'x', hexDigit (b.toNat / 16), hexDigit (b.toNat % 16)]

/-- The big-endian number of `width` bytes at a position. -/
def beAt (data : Bytes) (pos width : ℕ) : ℕ := eval ((data.drop pos).take width)

/-- `decode_vector`. -/
def decodeVector (data : Bytes) : Except Error OracleVector :=
  let magic := data.getD 0 0
  let version := data.getD 1 0
  if data.length < 10 then .error (.protocol "Vector data too short")
  else if magic ≠ vectorMagicByte then
    .error (.protocol
      s!"Invalid vector magic byte: {hexByte magic}, expected {hexByte vectorMagicByte}")
  else if version > vectorVersionWithSparse then
    .error (.protocol s!"Unsupported vector version: {version}")
  else do
    let flags := UInt16.ofNat (beAt data 2 2)
    let format ← VectorFormat.fromWire (data.getD 4 0)
    let numElements := UInt32.ofNat (beAt data 5 4)
    let pos := if flags &&& vectorFlagNormReserved ≠ 0 ∨ flags &&& vectorFlagNorm ≠ 0 then 17 else 9
    if flags &&& vectorFlagSparse ≠ 0 then
      if data.length < pos + 2 then .error (.protocol "Sparse vector data too short")
      else do
        let numSparse := (UInt16.ofNat (beAt data pos 2)).toNat
        let indices ← readItems 4 (fun bs => UInt32.ofNat (eval bs)) "Sparse vector indices truncated"
          data numSparse (pos + 2)
        let values ← decodeVectorValues (data.drop (pos + 2 + 4 * numSparse)) numSparse format
        return .sparse numElements indices values
    -- the slice of the elements starts behind the end of the data
    else if data.length < pos then .error (.indexOutOfBounds pos data.length)
    else do
      let values ← decodeVectorValues (data.drop pos) numElements.toNat format
      return .dense values

/-! ## Encoding -/

/-- `encode_vector_values`. -/
def encodeVectorValues : VectorData → Bytes
  | .float32 values => values.flatMap encodeBinaryFloat
  | .float64 values => values.flatMap encodeBinaryDouble
  | .int8 values => values.flatMap fun v => [v.toUInt8]
  | .binary values => values

/-- The header that `encode_vector` writes, with the eight bytes reserved for the norm. -/
def vectorHeader (version : UInt8) (flags : UInt16) (format : VectorFormat) (numElements : UInt32) :
    Bytes :=
  [vectorMagicByte, version] ++ digits 2 flags.toNat ++ [format.toWire] ++ digits 4 numElements.toNat ++
    List.replicate 8 0

/-- `encode_vector`. -/
def encodeVector (vector : OracleVector) : Bytes :=
  match vector with
  | .dense data =>
    let version := if data.format = .binary then vectorVersionWithBinary else vectorVersionBase
    let flags := if data.format ≠ .binary then vectorFlagNormReserved ||| vectorFlagNorm
      else vectorFlagNormReserved
    vectorHeader version flags data.format (UInt32.ofNat data.len) ++ encodeVectorValues data
  | .sparse numDimensions indices values =>
    let flags := vectorFlagNormReserved ||| (vectorFlagSparse ||| vectorFlagNorm)
    vectorHeader vectorVersionWithSparse flags values.format numDimensions ++
      (digits 2 (UInt16.ofNat indices.length).toNat ++ (indices.flatMap (fun idx => digits 4 idx.toNat) ++
        encodeVectorValues values))

/-! ## Items and elements -/

section Items

variable {α : Type} {width : ℕ} {decode : Bytes → α} {encode : α → Bytes}

/-- Items are read where they have been written.

**Proof sketch.** Induction on the items; what is in front of them grows by the item just read. -/
lemma readItems_flatMap (truncated : String) (hwidth : ∀ a, (encode a).length = width)
    (hback : ∀ a, decode (encode a) = a) (before after : Bytes) (items : List α) :
    readItems width decode truncated (before ++ (items.flatMap encode ++ after)) items.length
      before.length = .ok items := by
  induction items generalizing before with
  | nil => rfl
  | cons a items ih =>
    have hroom : ¬(before ++ ((a :: items).flatMap encode ++ after)).length < before.length + width := by
      rw [List.flatMap_cons, List.length_append, List.length_append, List.length_append, hwidth]
      omega
    have hitem : ((before ++ ((a :: items).flatMap encode ++ after)).drop before.length).take width =
        encode a := by
      rw [List.drop_left, List.flatMap_cons, List.append_assoc, ← hwidth a, List.take_left]
    have hrest := ih (before ++ encode a)
    rw [List.append_assoc, ← List.append_assoc (encode a), ← List.flatMap_cons, List.length_append,
      hwidth] at hrest
    rw [List.length_cons, readItems, if_neg hroom, hrest, hitem, hback]
    rfl

/-- Items are read where nothing else stands. -/
lemma readItems_flatMap_zero (truncated : String) (hwidth : ∀ a, (encode a).length = width)
    (hback : ∀ a, decode (encode a) = a) (items : List α) :
    readItems width decode truncated (items.flatMap encode) items.length 0 = .ok items := by
  have h := readItems_flatMap truncated hwidth hback [] [] items
  rwa [List.nil_append, List.append_nil] at h

/-- As many items are read as have been asked for. -/
lemma length_of_readItems {truncated : String} {data : Bytes} {n pos : ℕ} {items : List α}
    (h : readItems width decode truncated data n pos = .ok items) : items.length = n := by
  induction n generalizing pos items with
  | zero =>
    cases h
    rfl
  | succ n ih =>
    rw [readItems] at h
    split at h
    · cases h
    · obtain ⟨rest, hrest, hret⟩ := exists_of_ok_bind h
      cases hret
      rw [List.length_cons, ih hrest]

end Items

/-- The elements of every format are read back. -/
lemma decodeVectorValues_encodeVectorValues (data : VectorData) :
    decodeVectorValues (encodeVectorValues data) data.len data.format = .ok data := by
  cases data with
  | float32 values =>
    exact congrArg (VectorData.float32 <$> ·) (readItems_flatMap_zero _ length_encodeBinaryFloat
      decodeBinaryFloat_encodeBinaryFloat values)
  | float64 values =>
    exact congrArg (VectorData.float64 <$> ·) (readItems_flatMap_zero _ length_encodeBinaryDouble
      decodeBinaryDouble_encodeBinaryDouble values)
  | int8 values =>
    have hread : readItems 1 (fun bs => (bs.getD 0 0).toInt8) "Vector INT8 data truncated"
        (values.flatMap fun v => [v.toUInt8]) values.length 0 = .ok values := by
      refine readItems_flatMap_zero _ ?_ ?_ values
      · exact fun _ => rfl
      · exact Int8.toInt8_toUInt8
    exact congrArg (VectorData.int8 <$> ·) hread
  | binary values =>
    have hread : readItems 1 (fun bs => bs.getD 0 0) "Vector BINARY data truncated"
        (values.flatMap fun v => [v]) values.length 0 = .ok values := by
      refine readItems_flatMap_zero _ ?_ ?_ values
      · exact fun _ => rfl
      · exact fun _ => rfl
    have hdiv : values.length * 8 / 8 = values.length := Nat.mul_div_cancel _ (by omega)
    rw [List.flatMap_singleton'] at hread
    rw [VectorData.len, VectorData.format, encodeVectorValues, decodeVectorValues, hdiv]
    exact congrArg (VectorData.binary <$> ·) hread

/-- No more elements are read than have been asked for. -/
lemma len_le_of_decodeVectorValues {data : Bytes} {n : ℕ} {format : VectorFormat} {values : VectorData}
    (h : decodeVectorValues data n format = .ok values) : values.len ≤ n := by
  have hread : ∀ {α : Type} {f : List α → VectorData} {x : Except Error (List α)},
      f <$> x = .ok values → ∃ items, x = .ok items ∧ f items = values := by
    intro α f x hmap
    cases x with
    | error e => cases hmap
    | ok items =>
      cases hmap
      exact ⟨items, rfl, rfl⟩
  cases format with
  | float32 =>
    obtain ⟨items, hitems, rfl⟩ := hread h
    exact (length_of_readItems hitems).le
  | float64 =>
    obtain ⟨items, hitems, rfl⟩ := hread h
    exact (length_of_readItems hitems).le
  | int8 =>
    obtain ⟨items, hitems, rfl⟩ := hread h
    exact (length_of_readItems hitems).le
  | binary =>
    obtain ⟨items, hitems, rfl⟩ := hread h
    rw [VectorData.len, length_of_readItems hitems]
    exact Nat.div_mul_le_self n 8

/-! ## The header -/

/-- What the decoder does behind a header of the encoder. -/
lemma decodeVector_vectorHeader {version : UInt8} {flags : UInt16} (format : VectorFormat)
    (numElements : UInt32) (body : Bytes) (hversion : ¬version > vectorVersionWithSparse)
    (hnorm : flags &&& vectorFlagNormReserved ≠ 0) :
    decodeVector (vectorHeader version flags format numElements ++ body) =
      if flags &&& vectorFlagSparse ≠ 0 then
        if body.length < 2 then .error (.protocol "Sparse vector data too short")
        else do
          let numSparse := (UInt16.ofNat (eval (body.take 2))).toNat
          let indices ← readItems 4 (fun bs => UInt32.ofNat (eval bs)) "Sparse vector indices truncated"
            (vectorHeader version flags format numElements ++ body) numSparse 19
          let values ← decodeVectorValues (body.drop (2 + 4 * numSparse)) numSparse format
          return .sparse numElements indices values
      else do
        let values ← decodeVectorValues body numElements.toNat format
        return .dense values := by
  have hheader : (vectorHeader version flags format numElements).length = 17 := rfl
  generalize hdata : vectorHeader version flags format numElements ++ body = data
  have hlen : data.length = 17 + body.length := by rw [← hdata, List.length_append, hheader]
  have hdrop : ∀ n, data.drop (17 + n) = body.drop n := by
    intro n
    rw [← hdata, ← List.drop_drop, ← hheader, List.drop_left]
  have hmagic : data.getD 0 0 = vectorMagicByte := by rw [← hdata]; rfl
  have hversion' : data.getD 1 0 = version := by rw [← hdata]; rfl
  have hformat : data.getD 4 0 = format.toWire := by rw [← hdata]; rfl
  have hflags : UInt16.ofNat (beAt data 2 2) = flags := by
    have hdigits : (data.drop 2).take 2 = digits 2 flags.toNat := by rw [← hdata]; rfl
    rw [beAt, hdigits, eval_digits 2 _ flags.toNat_lt, UInt16.ofNat_toNat]
  have hnum : UInt32.ofNat (beAt data 5 4) = numElements := by
    have hdigits : (data.drop 5).take 4 = digits 4 numElements.toNat := by rw [← hdata]; rfl
    rw [beAt, hdigits, eval_digits 4 _ numElements.toNat_lt, UInt32.ofNat_toNat]
  have hcount : beAt data 17 2 = eval (body.take 2) := by rw [beAt, hdrop 0, List.drop_zero]
  have hshort : data.length < 17 + 2 ↔ body.length < 2 := by omega
  simp only [decodeVector, hmagic, hversion', hformat, hflags, hnum, VectorFormat.fromWire_toWire]
  rw [if_neg (by omega), if_neg (by simp), if_neg hversion]
  change (if flags &&& vectorFlagSparse ≠ 0 then _ else _) = _
  simp only [if_pos (Or.inl hnorm : flags &&& vectorFlagNormReserved ≠ 0 ∨ flags &&& vectorFlagNorm ≠ 0),
    hshort, hcount, add_assoc, hdrop]
  rw [if_neg (by omega : ¬data.length < 17), hdrop 0, List.drop_zero]

/-! ## When a vector is read back -/

namespace OracleVector

/-- Has a sparse vector an index for each element? -/
def Aligned : OracleVector → Prop
  | dense _ => True
  | sparse _ indices values => indices.length = values.len

/-- Does the number of elements fit its field? That of a dense vector has four bytes, that of a sparse
one has two. -/
def CountFits : OracleVector → Prop
  | dense data => data.len < 2 ^ 32
  | sparse _ indices _ => indices.length < 2 ^ 16

end OracleVector

/-- The bytes of a dense vector are decoded with the number of elements that is left of it. -/
lemma decodeVector_encodeVector_dense (data : VectorData) :
    decodeVector (encodeVector (.dense data)) = do
      let values ← decodeVectorValues (encodeVectorValues data) (data.len % 2 ^ 32) data.format
      return .dense values := by
  have hnum : (UInt32.ofNat data.len).toNat = data.len % 2 ^ 32 := UInt32.toNat_ofNat'
  rw [encodeVector]
  by_cases hbinary : data.format = .binary
  · rw [if_pos hbinary, if_neg (not_not.mpr hbinary), decodeVector_vectorHeader _ _ _ (by decide)
      (by decide), if_neg (by decide), hnum]
  · rw [if_neg hbinary, if_pos hbinary, decodeVector_vectorHeader _ _ _ (by decide) (by decide),
      if_neg (by decide), hnum]

/-- The bytes of indices and elements. -/
def sparseBody (indices : List UInt32) (values : VectorData) : Bytes :=
  indices.flatMap (fun idx => digits 4 idx.toNat) ++ encodeVectorValues values

/-- The bytes of a sparse vector are decoded with the number of indices that is left of it. -/
lemma decodeVector_encodeVector_sparse (numDimensions : UInt32) (indices : List UInt32)
    (values : VectorData) :
    decodeVector (encodeVector (.sparse numDimensions indices values)) = do
      let indices' ← readItems 4 (fun bs => UInt32.ofNat (eval bs)) "Sparse vector indices truncated"
        (encodeVector (.sparse numDimensions indices values)) (indices.length % 2 ^ 16) 19
      let values' ← decodeVectorValues ((sparseBody indices values).drop (4 * (indices.length % 2 ^ 16)))
        (indices.length % 2 ^ 16) values.format
      return .sparse numDimensions indices' values' := by
  have hnum : (UInt16.ofNat indices.length).toNat = indices.length % 2 ^ 16 := UInt16.toNat_ofNat'
  have hcount : (UInt16.ofNat (eval (digits 2 (indices.length % 2 ^ 16)))).toNat =
      indices.length % 2 ^ 16 := by
    rw [← hnum, eval_digits 2 _ (UInt16.toNat_lt _), UInt16.ofNat_toNat]
  have htake : (digits 2 (indices.length % 2 ^ 16) ++ sparseBody indices values).take 2 =
      digits 2 (indices.length % 2 ^ 16) := rfl
  have hdrop : ∀ n, (digits 2 (indices.length % 2 ^ 16) ++ sparseBody indices values).drop (2 + n) =
      (sparseBody indices values).drop n := by
    intro n
    rw [← List.drop_drop]
    rfl
  rw [encodeVector, hnum, ← sparseBody, decodeVector_vectorHeader _ _ _ (by decide) (by decide),
    if_pos (by decide), if_neg (by rw [List.length_append, length_digits]; omega)]
  simp only [htake, hcount, hdrop]

/-- **A vector is read back if and only if its number of elements fits its field.** -/
theorem decodeVector_encodeVector_iff (v : OracleVector) (h : v.Aligned) :
    decodeVector (encodeVector v) = .ok v ↔ v.CountFits := by
  cases v with
  | dense data =>
    rw [decodeVector_encodeVector_dense]
    constructor
    · intro hback
      obtain ⟨values, hvalues, hret⟩ := exists_of_ok_bind hback
      cases hret
      have hle := len_le_of_decodeVectorValues hvalues
      exact hle.trans_lt (Nat.mod_lt _ (by omega))
    · intro hfits
      rw [Nat.mod_eq_of_lt hfits, decodeVectorValues_encodeVectorValues]
      rfl
  | sparse numDimensions indices values =>
    rw [decodeVector_encodeVector_sparse]
    constructor
    · intro hback
      obtain ⟨indices', hindices, hrest⟩ := exists_of_ok_bind hback
      obtain ⟨values', -, hret⟩ := exists_of_ok_bind hrest
      cases hret
      have hlen := length_of_readItems hindices
      exact hlen.trans_lt (Nat.mod_lt _ (by omega))
    · intro hfits
      have hmod : indices.length % 2 ^ 16 = indices.length := Nat.mod_eq_of_lt hfits
      have hwidth : ∀ idx : UInt32, (digits 4 idx.toNat).length = 4 := fun _ => length_digits 4 _
      have hback : ∀ idx : UInt32, UInt32.ofNat (eval (digits 4 idx.toNat)) = idx := fun idx => by
        rw [eval_digits 4 _ idx.toNat_lt, UInt32.ofNat_toNat]
      obtain ⟨before, hbefore, hlen⟩ : ∃ before,
          encodeVector (.sparse numDimensions indices values) = before ++ sparseBody indices values ∧
            before.length = 19 := by
        refine ⟨_, (List.append_assoc _ _ _).symm, ?_⟩
        rw [List.length_append, length_digits]
        rfl
      have hread : readItems 4 (fun bs => UInt32.ofNat (eval bs)) "Sparse vector indices truncated"
          (before ++ sparseBody indices values) indices.length before.length = .ok indices :=
        readItems_flatMap _ hwidth hback before _ indices
      have hbody : (sparseBody indices values).drop (4 * indices.length) = encodeVectorValues values := by
        have hlen : (indices.flatMap fun idx => digits 4 idx.toNat).length = 4 * indices.length := by
          rw [List.length_flatMap, List.map_congr_left fun idx _ => hwidth idx, List.map_const',
            List.sum_replicate, smul_eq_mul, Nat.mul_comm]
        rw [sparseBody, ← hlen, List.drop_left]
      rw [hmod, hbefore, ← hlen, hread, hbody, h, decodeVectorValues_encodeVectorValues]
      rfl

/-- A sparse vector of two doubles. -/
def sparsePair : OracleVector := .sparse 16 [2, 9] (.float64 [0, 0x3FF0000000000000])

/-- This vector is read back. -/
theorem decodeVector_encodeVector_sparsePair :
    sparsePair.Aligned ∧ sparsePair.CountFits ∧ decodeVector (encodeVector sparsePair) = .ok sparsePair := by
  have haligned : sparsePair.Aligned := rfl
  have hfits : sparsePair.CountFits := show 2 < 2 ^ 16 by decide
  exact ⟨haligned, hfits, (decodeVector_encodeVector_iff sparsePair haligned).mpr hfits⟩

/-- A sparse vector with one element more than its count can say. -/
def overlongVector : OracleVector :=
  .sparse 65536 ((List.range 65536).map UInt32.ofNat) (.int8 (List.replicate 65536 1))

/-- The count of this vector is written as zero, and none of its elements is read. -/
theorem decodeVector_encodeVector_overlong :
    overlongVector.Aligned ∧
      decodeVector (encodeVector overlongVector) = .ok (.sparse 65536 [] (.int8 [])) ∧
      decodeVector (encodeVector overlongVector) ≠ .ok overlongVector := by
  have hlen : ((List.range 65536).map UInt32.ofNat).length = 65536 := by
    rw [List.length_map, List.length_range]
  have haligned : overlongVector.Aligned := by
    rw [overlongVector, OracleVector.Aligned, hlen, VectorData.len, List.length_replicate]
  have hlost : decodeVector (encodeVector overlongVector) = .ok (.sparse 65536 [] (.int8 [])) := by
    rw [overlongVector, decodeVector_encodeVector_sparse, hlen]
    rfl
  refine ⟨haligned, hlost, fun hback => ?_⟩
  rw [hlost, overlongVector] at hback
  injection hback with hback
  injection hback with _ hnil _
  rw [← hnil, List.length_nil] at hlen
  omega

end OracleRs
