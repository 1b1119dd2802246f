import OracleRs.Lib.Indexing
import OracleRs.Types.Vector

set_option relaxedAutoImplicit false
set_option autoImplicit false

/-!
# The bounds of the VECTOR decoder

`decode_vector` with its positions: every index and every slice of the data is one that the source
panics at when it is out of bounds. All of them are in the data but one: behind the bytes of the norm the
elements of a dense vector are sliced off without a look at the length, so that data that end in the norm
make the decoder panic.

## Main definitions

* `OracleRs.decodeVectorValuesChecked`, `OracleRs.decodeVectorChecked` — the decoder with its positions.
* `OracleRs.EndsInNorm` — a dense vector whose data end in the norm.

## Main results

* `OracleRs.decodeVectorChecked_eq` — no other position is out of bounds.
* `OracleRs.decodeVectorChecked_returns_iff` — when the decoder returns.
-/

namespace OracleRs

open BigEndian Indexing

/-! ## Decoding -/

section Items

variable {α : Type}

/-- The loop that the items of a vector are read with, each by `get` from its position. -/
def readItemsChecked (width : ℕ) (get : ℕ → Except Error α) (truncated : String) (data : Bytes) :
    ℕ → ℕ → Except Error (List α)
  | 0, _ => .ok []
  | n + 1, pos =>
    if data.length < pos + width then .error (.protocol truncated)
    else do
      let a ← get pos
      let items ← readItemsChecked width get truncated data n (pos + width)
      return a :: items

end Items

/-- `decode_vector_values`. -/
def decodeVectorValuesChecked (data : Bytes) (numElements : ℕ) :
    VectorFormat → Except Error VectorData
  | .float32 => .float32 <$> readItemsChecked 4
      (fun offset => decodeBinaryFloat <$> slice .indexOutOfBounds data offset (offset + 4))
      "Vector FLOAT32 data truncated" data numElements 0
  | .float64 => .float64 <$> readItemsChecked 8
      (fun offset => decodeBinaryDouble <$> slice .indexOutOfBounds data offset (offset + 8))
      "Vector FLOAT64 data truncated" data numElements 0
  | .int8 => .int8 <$> readItemsChecked 1 (fun i => UInt8.toInt8 <$> item .indexOutOfBounds data i)
      "Vector INT8 data truncated" data numElements 0
  | .binary => .binary <$> readItemsChecked 1 (fun i => item .indexOutOfBounds data i)
      "Vector BINARY data truncated" data (numElements / 8) 0

/-- The number of the bytes at `width` indices (`from_be_bytes`). -/
def beChecked (data : Bytes) (pos width : ℕ) : Except Error ℕ :=
  eval <$> items .indexOutOfBounds data pos width

/-- `decode_vector`. -/
def decodeVectorChecked (data : Bytes) : Except Error OracleVector :=
  if data.length < 10 then .error (.protocol "Vector data too short")
  else do
    let magic ← item .indexOutOfBounds data 0
    if magic ≠ vectorMagicByte then
      .error (.protocol
        s!"Invalid vector magic byte: {hexByte magic}, expected {hexByte vectorMagicByte}")
    else
      let version ← item .indexOutOfBounds data 1
      if version > vectorVersionWithSparse then
        .error (.protocol s!"Unsupported vector version: {version}")
      else
        let flags := UInt16.ofNat (← beChecked data 2 2)
        let format ← VectorFormat.fromWire (← item .indexOutOfBounds data 4)
        let numElements := UInt32.ofNat (← beChecked data 5 4)
        let pos :=
          if flags &&& vectorFlagNormReserved ≠ 0 ∨ flags &&& vectorFlagNorm ≠ 0 then 17 else 9
        if flags &&& vectorFlagSparse ≠ 0 then
          if data.length < pos + 2 then .error (.protocol "Sparse vector data too short")
          else
            let numSparse := (UInt16.ofNat (← beChecked data pos 2)).toNat
            let indices ← readItemsChecked 4 (fun pos => UInt32.ofNat <$> beChecked data pos 4)
              "Sparse vector indices truncated" data numSparse (pos + 2)
            let rest ← sliceFrom .indexOutOfBounds data (pos + 2 + 4 * numSparse)
            let values ← decodeVectorValuesChecked rest numSparse format
            return .sparse numElements indices values
        else
          let rest ← sliceFrom .indexOutOfBounds data pos
          let values ← decodeVectorValuesChecked rest numElements.toNat format
          return .dense values

/-! ## Positions -/

section Items

variable {α : Type} {width : ℕ} {decode : Bytes → α} {get : ℕ → Except Error α} {truncated : String}
  {data : Bytes}

/-- The loop looks at the length before it reads an item, so that no position is out of bounds. -/
lemma readItemsChecked_eq
    (hget : ∀ pos, pos + width ≤ data.length → get pos = .ok (decode ((data.drop pos).take width)))
    (n pos : ℕ) :
    readItemsChecked width get truncated data n pos = readItems width decode truncated data n pos := by
  induction n generalizing pos with
  | zero => rfl
  | succ n ih =>
    rw [readItemsChecked, readItems]
    split_ifs with hshort
    · rfl
    · rw [hget pos (by omega), ih]
      rfl

/-- The items that have been read are in the data. -/
lemma le_of_readItems {n pos : ℕ} {items : List α} (hpos : pos ≤ data.length)
    (h : readItems width decode truncated data n pos = .ok items) : pos + width * n ≤ data.length := by
  induction n generalizing pos items with
  | zero => simpa using hpos
  | succ n ih =>
    rw [readItems] at h
    split at h
    · cases h
    · next hfits =>
      obtain ⟨rest, hrest, -⟩ := exists_of_ok_bind h
      have hle := ih (by omega) hrest
      rw [Nat.mul_succ]
      omega

/-- The loop returns an error if the data are too short. -/
lemma isPanic_of_readItems {n pos : ℕ} {e : Error}
    (h : readItems width decode truncated data n pos = .error e) : e.isPanic = false := by
  induction n generalizing pos with
  | zero => cases h
  | succ n ih =>
    rw [readItems] at h
    split at h
    · cases h
      rfl
    · cases hrest : readItems width decode truncated data n (pos + width) with
      | error e' =>
        rw [hrest] at h
        cases h
        exact ih hrest
      | ok items =>
        rw [hrest] at h
        cases h

end Items

lemma decodeVectorValuesChecked_eq (data : Bytes) (numElements : ℕ) (format : VectorFormat) :
    decodeVectorValuesChecked data numElements format = decodeVectorValues data numElements format := by
  have hslice : ∀ {α : Type} (decode : Bytes → α) (width pos : ℕ), pos + width ≤ data.length →
      decode <$> slice .indexOutOfBounds data pos (pos + width) =
        (.ok (decode ((data.drop pos).take width)) : Except Error α) := by
    intro α decode width pos hpos
    rw [slice_eq_ok _ hpos]
    rfl
  have hitem : ∀ pos, pos + 1 ≤ data.length →
      item .indexOutOfBounds data pos = (.ok (((data.drop pos).take 1).getD 0 0) : Except Error UInt8) := by
    intro pos hpos
    rw [item_eq_ok _ hpos 0, List.drop_eq_getElem_cons hpos]
    simp [List.getD_eq_getElem?_getD, List.getElem?_eq_getElem (Nat.lt_of_succ_le hpos)]
  cases format with
  | float32 => exact congrArg (VectorData.float32 <$> ·) (readItemsChecked_eq (hslice _ 4) _ _)
  | float64 => exact congrArg (VectorData.float64 <$> ·) (readItemsChecked_eq (hslice _ 8) _ _)
  | int8 =>
    refine congrArg (VectorData.int8 <$> ·) (readItemsChecked_eq (fun pos hpos => ?_) _ _)
    rw [hitem pos hpos]
    rfl
  | binary => exact congrArg (VectorData.binary <$> ·) (readItemsChecked_eq hitem _ _)

lemma isPanic_of_decodeVectorValues {data : Bytes} {n : ℕ} {format : VectorFormat} {e : Error}
    (h : decodeVectorValues data n format = .error e) : e.isPanic = false := by
  have hread : ∀ {α : Type} {f : List α → VectorData} {x : Except Error (List α)},
      f <$> x = .error e → x = .error e := by
    intro α f x hmap
    cases x with
    | error e' =>
      cases hmap
      rfl
    | ok items => cases hmap
  cases format with
  | float32 => exact isPanic_of_readItems (hread h)
  | float64 => exact isPanic_of_readItems (hread h)
  | int8 => exact isPanic_of_readItems (hread h)
  | binary => exact isPanic_of_readItems (hread h)

lemma beChecked_eq {data : Bytes} {pos width : ℕ} (h : pos + width ≤ data.length) :
    beChecked data pos width = .ok (beAt data pos width) := by
  rw [beChecked, items_eq_ok _ h]
  rfl

/-- The indices of a sparse vector are in the data, and what is behind them is sliced off. -/
lemma sparseChecked_eq {α : Type} (data : Bytes) {pos : ℕ} (n : ℕ) (hpos : pos ≤ data.length)
    (f : List UInt32 → Bytes → Except Error α) :
    (do
      let indices ← readItemsChecked 4 (fun pos => UInt32.ofNat <$> beChecked data pos 4)
        "Sparse vector indices truncated" data n pos
      let rest ← sliceFrom .indexOutOfBounds data (pos + 4 * n)
      f indices rest) =
    (do
      let indices ← readItems 4 (fun bs => UInt32.ofNat (eval bs)) "Sparse vector indices truncated"
        data n pos
      f indices (data.drop (pos + 4 * n))) := by
  let decode (bs : Bytes) : UInt32 := UInt32.ofNat (eval bs)
  have hget : ∀ pos, pos + 4 ≤ data.length → UInt32.ofNat <$> beChecked data pos 4 =
      .ok (decode ((data.drop pos).take 4)) := by
    intro pos hpos
    rw [beChecked_eq hpos]
    rfl
  rw [readItemsChecked_eq hget]
  cases hread : readItems 4 (fun bs => UInt32.ofNat (eval bs)) "Sparse vector indices truncated" data n
    pos with
  | error e => rfl
  | ok indices =>
    show (sliceFrom _ data (pos + 4 * n) >>= _) = f indices _
    rw [sliceFrom_eq_ok _ (le_of_readItems hpos hread)]
    rfl

/-- No position is out of bounds but the one behind the norm. -/
theorem decodeVectorChecked_eq (data : Bytes) : decodeVectorChecked data = decodeVector data := by
  rw [decodeVectorChecked, decodeVector]
  by_cases hshort : data.length < 10
  · rw [if_pos hshort, if_pos hshort]
  rw [if_neg hshort, if_neg hshort, item_eq_ok _ (by omega) 0, item_eq_ok _ (by omega) 0,
    item_eq_ok _ (by omega) 0, beChecked_eq (by omega), beChecked_eq (by omega)]
  show (if _ then _ else if _ then _ else _) = (if _ then _ else if _ then _ else _)
  split_ifs with hmagic hversion
  · rfl
  · rfl
  show (VectorFormat.fromWire (data.getD 4 0) >>= _) = (VectorFormat.fromWire (data.getD 4 0) >>= _)
  cases VectorFormat.fromWire (data.getD 4 0) with
  | error e => rfl
  | ok format =>
    show (if _ then if _ then _ else _ else _) = (if _ then if _ then _ else _ else if _ then _ else _)
    set pos := if UInt16.ofNat (beAt data 2 2) &&& vectorFlagNormReserved ≠ 0 ∨
      UInt16.ofNat (beAt data 2 2) &&& vectorFlagNorm ≠ 0 then 17 else 9
    split_ifs with hsparse hcount hend
    · rfl
    · rw [beChecked_eq (by omega)]
      refine (sparseChecked_eq data _ (by omega) _).trans ?_
      simp only [decodeVectorValuesChecked_eq]
    · rw [sliceFrom_eq_error _ hend]
      rfl
    · rw [sliceFrom_eq_ok _ (not_lt.mp hend)]
      show (decodeVectorValuesChecked _ _ _ >>= _) = _
      rw [decodeVectorValuesChecked_eq]

/-! ## When the decoder returns -/

/-- The decoder's flags (bytes 2 and 3). -/
def vectorFlags (data : Bytes) : UInt16 := UInt16.ofNat (beAt data 2 2)

/-- The position behind the header, and behind the norm if there is one. -/
def bodyPos (data : Bytes) : ℕ :=
  if vectorFlags data &&& vectorFlagNormReserved ≠ 0 ∨ vectorFlags data &&& vectorFlagNorm ≠ 0 then 17
  else 9

/-- The header of a dense vector with a norm, behind which the data end before the norm does. -/
structure EndsInNorm (data : Bytes) : Prop where
  /-- the header is there -/
  header : 10 ≤ data.length
  /-- the header and the norm are not -/
  norm : data.length < 17
  /-- the magic byte is right -/
  magic : data.getD 0 0 = vectorMagicByte
  /-- the version is supported -/
  version : data.getD 1 0 ≤ vectorVersionWithSparse
  /-- the format is supported -/
  format : data.getD 4 0 ∈ [2, 3, 4, 5]
  /-- the vector has a norm -/
  hasNorm : vectorFlags data &&& vectorFlagNormReserved ≠ 0 ∨ vectorFlags data &&& vectorFlagNorm ≠ 0
  /-- the vector is dense -/
  dense : vectorFlags data &&& vectorFlagSparse = 0

/-- Formats that are not supported are answered with an error. -/
lemma VectorFormat.fromWire_cases (value : UInt8) :
    (value ∈ [2, 3, 4, 5] ∧ ∃ format, fromWire value = .ok format) ∨
      (value ∉ [2, 3, 4, 5] ∧ ∃ e, fromWire value = .error e ∧ e.isPanic = false) := by
  by_cases h : value ∈ [2, 3, 4, 5]
  · simp only [List.mem_cons, List.not_mem_nil, or_false] at h
    rcases h with rfl | rfl | rfl | rfl
    · exact .inl ⟨by decide, float32, rfl⟩
    · exact .inl ⟨by decide, float64, rfl⟩
    · exact .inl ⟨by decide, int8, rfl⟩
    · exact .inl ⟨by decide, binary, rfl⟩
  · refine .inr ⟨h, .protocol s!"Unsupported vector format: {value}", ?_, rfl⟩
    simp only [List.mem_cons, List.not_mem_nil, or_false, not_or] at h
    rw [fromWire]
    · exact h.1
    · exact h.2.1
    · exact h.2.2.1
    · exact h.2.2.2

/-- A sequence whose parts return errors, and do not panic. -/
lemma isPanic_of_bind {α β : Type} {x : Except Error α} {f : α → Except Error β} {e : Error}
    (h : (x >>= f) = .error e) (hx : ∀ e, x = .error e → e.isPanic = false)
    (hf : ∀ a e, x = .ok a → f a = .error e → e.isPanic = false) : e.isPanic = false := by
  cases x with
  | error e' =>
    cases h
    exact hx e rfl
  | ok a => exact hf a e rfl h

/-- What the decoder does behind a header that it accepts. -/
lemma decodeVector_of_header {data : Bytes} {format : VectorFormat} (hheader : 10 ≤ data.length)
    (hmagic : data.getD 0 0 = vectorMagicByte) (hversion : data.getD 1 0 ≤ vectorVersionWithSparse)
    (hformat : VectorFormat.fromWire (data.getD 4 0) = .ok format) :
    decodeVector data =
      if vectorFlags data &&& vectorFlagSparse ≠ 0 then
        if data.length < bodyPos data + 2 then .error (.protocol "Sparse vector data too short")
        else do
          let numSparse := (UInt16.ofNat (beAt data (bodyPos data) 2)).toNat
          let indices ← readItems 4 (fun bs => UInt32.ofNat (eval bs)) "Sparse vector indices truncated"
            data numSparse (bodyPos data + 2)
          let values ← decodeVectorValues (data.drop (bodyPos data + 2 + 4 * numSparse)) numSparse format
          return .sparse (UInt32.ofNat (beAt data 5 4)) indices values
      else if data.length < bodyPos data then .error (.indexOutOfBounds (bodyPos data) data.length)
      else do
        let values ← decodeVectorValues (data.drop (bodyPos data)) (UInt32.ofNat (beAt data 5 4)).toNat
          format
        return .dense values := by
  rw [decodeVector, if_neg (by omega), if_neg (not_not.mpr hmagic), if_neg (UInt8.not_lt.mpr hversion),
    hformat]
  rfl

/-- Behind a header that it accepts, the decoder panics if and only if the elements of a dense vector
are behind the end. -/
lemma isPanic_of_header {data : Bytes} {format : VectorFormat} (hheader : 10 ≤ data.length)
    (hmagic : data.getD 0 0 = vectorMagicByte) (hversion : data.getD 1 0 ≤ vectorVersionWithSparse)
    (hformat : VectorFormat.fromWire (data.getD 4 0) = .ok format) :
    (∀ e, decodeVector data = .error e → e.isPanic = false) ↔
      (vectorFlags data &&& vectorFlagSparse = 0 → bodyPos data ≤ data.length) := by
  rw [decodeVector_of_header hheader hmagic hversion hformat]
  by_cases hsparse : vectorFlags data &&& vectorFlagSparse = 0
  · rw [if_neg (not_not.mpr hsparse)]
    by_cases hend : data.length < bodyPos data
    · rw [if_pos hend]
      refine iff_of_false (fun h => ?_) fun h => absurd (h hsparse) (not_le.mpr hend)
      cases h _ rfl
    · rw [if_neg hend]
      refine iff_of_true (fun e he => ?_) fun _ => not_lt.mp hend
      refine isPanic_of_bind he (fun e => isPanic_of_decodeVectorValues) fun values e _ he => ?_
      cases he
  · rw [if_pos hsparse]
    refine iff_of_true (fun e he => ?_) fun h => absurd h hsparse
    split at he
    · cases he
      rfl
    · refine isPanic_of_bind he (fun e => isPanic_of_readItems) fun indices e _ he => ?_
      refine isPanic_of_bind he (fun e => isPanic_of_decodeVectorValues) fun values e _ he => ?_
      cases he

/-- **The decoder returns a vector or an error, with every index and every slice in the data, if and only
if the data are not those of a dense vector that end in the norm.** -/
theorem decodeVectorChecked_returns_iff (data : Bytes) :
    (∀ e, decodeVectorChecked data = .error e → e.isPanic = false) ↔ ¬EndsInNorm data := by
  rw [decodeVectorChecked_eq]
  by_cases hheader : data.length < 10
  · refine iff_of_true (fun e he => ?_) fun h => absurd hheader (not_lt.mpr h.header)
    rw [decodeVector, if_pos hheader] at he
    cases he
    rfl
  by_cases hmagic : data.getD 0 0 ≠ vectorMagicByte
  · refine iff_of_true (fun e he => ?_) fun h => hmagic h.magic
    rw [decodeVector, if_neg hheader, if_pos hmagic] at he
    cases he
    rfl
  by_cases hversion : data.getD 1 0 > vectorVersionWithSparse
  · refine iff_of_true (fun e he => ?_) fun h => UInt8.not_lt.mpr h.version hversion
    rw [decodeVector, if_neg hheader, if_neg hmagic, if_pos hversion] at he
    cases he
    rfl
  rcases VectorFormat.fromWire_cases (data.getD 4 0) with ⟨hmem, format, hformat⟩ | ⟨hmem, e', hwire, hret⟩
  · rw [isPanic_of_header (not_lt.mp hheader) (not_not.mp hmagic) (UInt8.not_lt.mp hversion) hformat]
    constructor
    · intro hend h
      have hle := hend h.dense
      rw [bodyPos, if_pos h.hasNorm] at hle
      exact absurd h.norm (not_lt.mpr hle)
    · intro hends hdense
      rw [bodyPos]
      split_ifs with hnorm
      · by_contra hshort
        exact hends ⟨not_lt.mp hheader, not_le.mp hshort, not_not.mp hmagic, UInt8.not_lt.mp hversion,
          hmem, hnorm, hdense⟩
      · omega
  · refine iff_of_true (fun e he => ?_) fun h => hmem h.format
    rw [decodeVector, if_neg hheader, if_neg hmagic, if_neg hversion, hwire] at he
    cases he
    exact hret

/-- The header of a dense vector with a norm, and one byte of the norm. -/
def cutVector : Bytes := [0xDB, 0, 0, 0x12, 2, 0, 0, 0, 1, 0]

/-- These bytes make the decoder panic. -/
theorem decodeVectorChecked_cutVector :
    ¬∀ (data : Bytes) (e : Error), decodeVectorChecked data = .error e → e.isPanic = false := by
  intro h
  have hpanic : decodeVectorChecked cutVector = .error (.indexOutOfBounds 17 10) := rfl
  cases h _ _ hpanic

end OracleRs
