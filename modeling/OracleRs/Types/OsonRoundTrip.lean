import OracleRs.Types.OsonDictionary
import OracleRs.Types.OsonTree

set_option relaxedAutoImplicit false
set_option autoImplicit false

/-!
# JSON documents through OSON

The decoder reads back what the encoder writes of a document, as long as nothing is truncated. The number of
the field names and the lengths of the names have one byte each, whatever the document is: the encoder never
sets the flags for more names, and never chooses the version for longer ones.

## Main definitions

* `OracleRs.Oson.Representable` — nothing in a document is truncated.

## Main results

* `OracleRs.Oson.readContext_document` — the dictionary is read back.
* `OracleRs.Oson.decode_encode` — a representable document is read back.
-/

namespace OracleRs.Oson

open Cursor

/-! ## The segment of the names -/

lemma length_nameOffsets (pos : ℕ) (names : List String) : (nameOffsets pos names).length = names.length := by
  induction names generalizing pos with
  | nil => rfl
  | cons name names ih => rw [nameOffsets, List.length_cons, ih, List.length_cons]

lemma length_offsetsBytes (names : List String) : (offsetsBytes names).length = names.length * 2 := by
  rw [offsetsBytes, ← length_nameOffsets 0 names]
  simp

/-- The names begin inside of their segment. -/
lemma lt_of_mem_nameOffsets {names : List String} {pos offset : ℕ} (h : offset ∈ nameOffsets pos names) :
    offset < pos + (namesData names).length := by
  induction names generalizing pos with
  | nil => cases h
  | cons name names ih =>
    rw [namesData, List.flatMap_cons, List.length_append, List.length_cons]
    obtain rfl | hmem := List.mem_cons.mp h
    · omega
    · have hlt := ih hmem
      rw [namesData] at hlt
      omega

/-- The segment of short names has a size with two bytes, if there are not too many. -/
lemma length_namesData_le {names : List String} (h : ∀ name ∈ names, (asBytes name).length ≤ 255) :
    (namesData names).length ≤ 256 * names.length := by
  induction names with
  | nil => exact Nat.le_refl 0
  | cons name names ih =>
    obtain ⟨hname, hnames⟩ := List.forall_mem_cons.mp h
    have hle := ih hnames
    rw [namesData, List.flatMap_cons, List.length_append, List.length_cons, List.length_cons]
    rw [namesData] at hle
    omega

lemma slice_of_standsAt {d b : Bytes} {p : ℕ} (h : StandsAt d p b) : slice d p (p + b.length) = .ok b := by
  rw [slice_eq_ok (Nat.le_add_right _ _) h.length_le, Nat.add_sub_cancel_left, h.take_drop]

/-- What the decoder reads of a name, whose length has one byte. -/
def readBack (name : String) : String := fromUtf8Lossy ((asBytes name).take ((asBytes name).length % 256))

lemma readBack_of_le {name : String} (h : (asBytes name).length ≤ 255) : readBack name = name := by
  rw [readBack, Nat.mod_eq_of_lt (Nat.lt_succ_of_le h), List.take_length, fromUtf8Lossy_asBytes]

/-- A name is found in the segment. -/
lemma fieldNameAt_of_standsAt {segment : Bytes} {offset : UInt32} {name : String}
    (h : StandsAt segment offset.toNat (UInt8.ofNat (asBytes name).length :: asBytes name)) :
    fieldNameAt 1 segment offset = .ok (readBack name) := by
  obtain ⟨hlength, hname⟩ := h.cons
  have heval : BigEndian.eval [UInt8.ofNat (asBytes name).length] = (asBytes name).length % 256 := by
    simp [BigEndian.eval]
  have hprefix : slice segment offset.toNat (offset.toNat + 1) = _ := slice_of_standsAt hlength
  have htake : ((asBytes name).take ((asBytes name).length % 256)).length = (asBytes name).length % 256 :=
    List.length_take_of_le (Nat.mod_le _ _)
  have hbytes := slice_of_standsAt (hname.take ((asBytes name).length % 256))
  rw [htake] at hbytes
  simp only [fieldNameAt, hprefix, bind, Except.bind, heval, hbytes]
  rfl

/-- All names are found in the segment. -/
lemma mapM_fieldNameAt {segment : Bytes} {toOffset : ℕ → UInt32} {names : List String} {pos : ℕ}
    (hoffset : ∀ offset ∈ nameOffsets pos names, (toOffset offset).toNat = offset)
    (h : StandsAt segment pos (namesData names)) :
    ((nameOffsets pos names).map toOffset).mapM (fieldNameAt 1 segment) = .ok (names.map readBack) := by
  induction names generalizing pos with
  | nil => rfl
  | cons name names ih =>
    obtain ⟨hfirst, hoffsets⟩ := List.forall_mem_cons.mp hoffset
    obtain ⟨hhere, hbehind⟩ : StandsAt segment pos _ ∧ StandsAt segment _ (namesData names) := StandsAt.append h
    rw [List.length_cons, ← Nat.add_assoc, Nat.add_right_comm] at hbehind
    rw [← hfirst] at hhere
    have hrest := ih hoffsets hbehind
    rw [nameOffsets, List.map_cons, List.mapM_cons, fieldNameAt_of_standsAt hhere]
    simp only [bind, Except.bind, hrest]
    rfl

lemma readsAt_readNameOffset {offset : ℕ} (h : offset < 2 ^ 16) :
    ReadsAt (readNameOffset 2) (BigEndian.digits 2 offset) (UInt16.ofNat offset).toUInt32 :=
  (readsAt_readU16Be h).bind_nil (.pure _)

/-- The dictionary of a document: the hashes of the names, their offsets and the segment of the names. -/
def namesPart (names : List String) : Bytes := names.map nameHash ++ (offsetsBytes names ++ namesData names)

section Names

variable {names : List String} {d : Bytes} {p : ℕ}

/-- The offsets of the names are read behind their hashes. -/
lemma readNameOffsets_of_standsAt {numFields : UInt32} (hnum : numFields.toNat = names.length)
    (hoffsets : ∀ offset ∈ nameOffsets 0 names, offset < 2 ^ 16) (hp : p + names.length < 2 ^ 64)
    (h : StandsAt d (p + names.length) (offsetsBytes names)) :
    readNameOffsets 1 numFields 2 ⟨d, p⟩ =
      .ok ((nameOffsets 0 names).map fun offset => (UInt16.ofNat offset).toUInt32)
        ⟨d, p + names.length + (offsetsBytes names).length⟩ := by
  have hadd : addUsize p (names.length * 1) = .ok (p + names.length) := by
    rw [Nat.mul_one]
    exact if_pos hp
  have hskip : skip (names.length * 1) ⟨d, p⟩ = .ok () ⟨d, p + names.length⟩ := by
    rw [skip, bind_ok (show position ⟨d, p⟩ = .ok p ⟨d, p⟩ from rfl), bind_liftExcept_ok hadd]
    rfl
  have htimes := ReadsAt.times (m := readNameOffset 2) fun offset hoffset =>
    readsAt_readNameOffset (hoffsets offset hoffset)
  rw [length_nameOffsets] at htimes
  rw [readNameOffsets, hnum, bind_ok hskip]
  exact htimes d _ h

/-- The dictionary is read back from behind the header. -/
lemma readShortFieldNames_of_standsAt (hlen : names.length ≤ 255) (hdata : (namesData names).length < 2 ^ 16)
    {numFields segSize : UInt32} (hnum : numFields.toNat = names.length)
    (hsize : segSize.toNat = (namesData names).length) (hp : p < 2 ^ 32)
    (h : StandsAt d p (namesPart names)) :
    readShortFieldNames numFields 2 segSize ⟨d, p⟩ =
      .ok (names.map readBack) ⟨d, p + (namesPart names).length⟩ := by
  obtain ⟨-, hrest⟩ := StandsAt.append h
  rw [List.length_map] at hrest
  obtain ⟨hoffsetsAt, hdataAt⟩ := hrest.append
  have hoffsets : ∀ offset ∈ nameOffsets 0 names, offset < 2 ^ 16 := by
    intro offset hoffset
    have hlt := lt_of_mem_nameOffsets hoffset
    omega
  have htotal : p + (namesPart names).length =
      p + names.length + (offsetsBytes names).length + (namesData names).length := by
    simp only [namesPart, List.length_append, List.length_map]
    omega
  rw [readShortFieldNames, htotal]
  split_ifs with hzero
  · have hlength := length_offsetsBytes names
    have hread := readNameOffsets_of_standsAt hnum hoffsets (by omega) hoffsetsAt
    set start := p + names.length + (offsetsBytes names).length
    have hposition : position ⟨d, start⟩ = .ok start ⟨d, start⟩ := rfl
    have hget : (get : ReadM ReadBuffer) ⟨d, start⟩ = .ok ⟨d, start⟩ ⟨d, start⟩ := rfl
    have hadd : addUsize start segSize.toNat = .ok (start + (namesData names).length) := by
      rw [hsize]
      exact if_pos (by omega)
    have hslice := slice_of_standsAt hdataAt
    have hseek : seek (start + (namesData names).length) ⟨d, start⟩ =
        .ok () ⟨d, start + (namesData names).length⟩ := rfl
    have hmap : ((nameOffsets 0 names).map fun offset => (UInt16.ofNat offset).toUInt32).mapM
        (fieldNameAt 1 (namesData names)) = .ok (names.map readBack) :=
      mapM_fieldNameAt (fun offset hoffset => by
        rw [UInt16.toNat_toUInt32, UInt16.toNat_ofNat_of_lt' (hoffsets offset hoffset)]) (standsAt_self _)
    rw [readFieldNames, bind_ok hread, bind_ok hposition, bind_ok hget, bind_liftExcept_ok hadd,
      bind_liftExcept_ok hslice, bind_ok hseek, hmap]
    rfl
  · have hnone : numFields.toNat = 0 := Nat.eq_zero_of_not_pos fun hpos => hzero (UInt32.lt_iff_toNat_lt.mpr hpos)
    obtain rfl := List.length_eq_zero_iff.mp (hnum.symm.trans hnone)
    rfl

end Names

/-! ## The header -/

/-- What stands in front of everything that depends on the flags. -/
def flagsPart (flags : UInt16) : Bytes := magicBytes ++ ([versionMaxFname255] ++ BigEndian.digits 2 flags.toNat)

/-- The sizes in the header of a document that is no scalar. -/
def sizesPart (flags : UInt16) (names : List String) (treeSize : ℕ) : Bytes :=
  [UInt8.ofNat names.length] ++ (encodeSegSize flags flagFnamesSegUint32 (namesData names).length ++
    (encodeSegSize flags flagTreeSegUint32 treeSize ++ BigEndian.digits 2 0))

lemma documentHeader_container (names : List String) (treeSize : ℕ) :
    documentHeader false names treeSize =
      let flags := documentFlags false (namesData names).length treeSize
      flagsPart flags ++ (sizesPart flags names treeSize ++ namesPart names) := by
  simp [documentHeader, flagsPart, sizesPart, namesPart]

lemma documentHeader_scalar (names : List String) (treeSize : ℕ) :
    documentHeader true names treeSize =
      let flags := documentFlags true (namesData names).length treeSize
      flagsPart flags ++ encodeSegSize flags flagTreeSegUint32 treeSize := by
  simp [documentHeader, flagsPart]

/-- The flags of a document that is no scalar. -/
lemma documentFlags_container (namesSize treeSize : ℕ) :
    documentFlags false namesSize treeSize &&& flagIsScalar = 0 ∧
      documentFlags false namesSize treeSize &&& flagRelOffsetMode = 0 ∧
      documentFlags false namesSize treeSize &&& flagNumFnamesUint32 = 0 ∧
      documentFlags false namesSize treeSize &&& flagNumFnamesUint16 = 0 ∧
      (namesSize < 2 ^ 16 → documentFlags false namesSize treeSize &&& flagFnamesSegUint32 = 0) := by
  rw [documentFlags, if_neg Bool.false_ne_true]
  refine ⟨?_, ?_, ?_, ?_, fun hsmall => ?_⟩
  on_goal 5 => rw [if_neg (show ¬ namesSize > 65535 by omega)]
  all_goals
    split_ifs
    all_goals decide

lemma documentFlags_scalar (namesSize treeSize : ℕ) :
    documentFlags true namesSize treeSize &&& flagIsScalar ≠ 0 ∧
      documentFlags true namesSize treeSize &&& flagRelOffsetMode = 0 := by
  rw [documentFlags, if_pos rfl]
  split_ifs
  all_goals decide

lemma require_of_true {ok : Bool} (h : ok = true) {e : Error} {c : ReadBuffer} : require ok e c = .ok () c := by
  rw [require, if_pos h]
  rfl

lemma readFlags_of_standsAt {flags : UInt16} {d : Bytes} (h : StandsAt d 0 (flagsPart flags)) :
    readFlags ⟨d, 0⟩ = .ok (versionMaxFname255, flags) ⟨d, 6⟩ := by
  obtain ⟨hmagic, hrest⟩ := h.append
  obtain ⟨hversion, hflags⟩ := hrest.append
  have hlen : 4 ≤ d.length := hversion.length_le
  have htake : d.take 3 = magicBytes := hmagic.take_drop
  have hfirst : readU8 ⟨d, 3⟩ = .ok versionMaxFname255 ⟨d, 4⟩ := readsAt_readU8 _ d _ hversion
  have hread : readU16Be ⟨d, 4⟩ = .ok (UInt16.ofNat flags.toNat) ⟨d, 6⟩ :=
    readsAt_readU16Be flags.toNat_lt d _ hflags
  rw [UInt16.ofNat_toNat] at hread
  have hget : (get : ReadM ReadBuffer) ⟨d, 0⟩ = .ok ⟨d, 0⟩ ⟨d, 0⟩ := rfl
  have hseek : seek 3 ⟨d, 0⟩ = .ok () ⟨d, 3⟩ := rfl
  rw [readFlags, bind_ok hget, bind_ok (require_of_true (decide_eq_true hlen)),
    bind_ok (require_of_true (decide_eq_true htake)), bind_ok hseek, bind_ok hfirst,
    bind_ok (require_of_true (decide_eq_true (.inl rfl))), bind_ok hread]
  rfl

/-- The size of a segment is read with as many bytes as it is written with. -/
lemma exists_readSegSize (flags flag : UInt16) (size : ℕ) :
    ∃ n : UInt32, ReadsAt (readSegSize flags flag) (encodeSegSize flags flag size) n ∧
      (flags &&& flag = 0 → size < 2 ^ 16 → n.toNat = size) := by
  rw [readSegSize, encodeSegSize]
  split_ifs with hflag
  · exact ⟨_, readsAt_readU32Be_bytes (BigEndian.length_digits 4 size), fun h => absurd h hflag⟩
  · refine ⟨_, (readsAt_readU16Be_bytes (BigEndian.length_digits 2 size)).bind_nil (.pure _), fun _ hlt => ?_⟩
    rw [UInt16.toNat_toUInt32, BigEndian.eval_digits 2 size hlt, UInt16.toNat_ofNat_of_lt' hlt]

lemma length_encodeSegSize_le (flags flag : UInt16) (size : ℕ) : (encodeSegSize flags flag size).length ≤ 4 := by
  rw [encodeSegSize, BigEndian.length_digits]
  split_ifs
  all_goals decide

lemma length_sizesPart_le (flags : UInt16) (names : List String) (treeSize : ℕ) :
    (sizesPart flags names treeSize).length ≤ 11 := by
  have hnames := length_encodeSegSize_le flags flagFnamesSegUint32 (namesData names).length
  have htree := length_encodeSegSize_le flags flagTreeSegUint32 treeSize
  simp only [sizesPart, List.length_append, List.length_singleton, BigEndian.length_digits]
  omega

/-- The header of a document that is no scalar says what there is to know about its names. -/
lemma exists_readHeader {flags : UInt16} (hnum32 : flags &&& flagNumFnamesUint32 = 0)
    (hnum16 : flags &&& flagNumFnamesUint16 = 0) (names : List String) (treeSize : ℕ) :
    ∃ header : Header, ReadsAt (readHeader versionMaxFname255 flags) (sizesPart flags names treeSize) header ∧
      header.numShort.toNat = names.length % 256 ∧ header.fieldIdLength = 1 ∧ header.numLong = 0 ∧
      (flags &&& flagFnamesSegUint32 = 0 → header.shortOffsetsSize = 2 ∧
        ((namesData names).length < 2 ^ 16 → header.shortSegSize.toNat = (namesData names).length)) := by
  obtain ⟨treeSegSize, htree, -⟩ := exists_readSegSize flags flagTreeSegUint32 treeSize
  obtain ⟨segSize, hseg, hsize⟩ := exists_readSegSize flags flagFnamesSegUint32 (namesData names).length
  have hnum : ReadsAt (readNumFieldNames flags) [UInt8.ofNat names.length]
      ((UInt8.ofNat names.length).toUInt32, 1) := by
    rw [readNumFieldNames, if_neg (not_not.mpr hnum32), if_neg (not_not.mpr hnum16)]
    exact (readsAt_readU8 _).bind_nil (.pure _)
  have hlong : ReadsAt (readLongHeader versionMaxFname255) [] (0, 0, 0) := .pure _
  have hparts : sizesPart flags names treeSize =
      [UInt8.ofNat names.length] ++ (encodeSegSize flags flagFnamesSegUint32 (namesData names).length ++
        ([] ++ (encodeSegSize flags flagTreeSegUint32 treeSize ++ BigEndian.digits 2 0))) := rfl
  rw [hparts]
  refine ⟨_, hnum.bind (hseg.bind (hlong.bind (htree.bind
    ((readsAt_readU16Be (by decide)).bind_nil (.pure _))))), ?_, rfl, rfl, fun hflag => ⟨?_, hsize hflag⟩⟩
  · rw [UInt8.toNat_toUInt32, UInt8.toNat_ofNat']
  · exact if_neg (not_not.mpr hflag)

/-- What is read of a document that is no scalar, up to the dictionary. -/
lemma exists_readContext {names : List String} {treeSize : ℕ} {d : Bytes}
    (h : StandsAt d 0 (documentHeader false names treeSize)) :
    ∃ (header : Header) (q : ℕ),
      readContext ⟨d, 0⟩ = (do return ⟨← header.readShortNames, 1, ← position, false⟩ : ReadM Context) ⟨d, q⟩ ∧
      StandsAt d q (namesPart names) ∧ q + (namesPart names).length = (documentHeader false names treeSize).length ∧
      q < 2 ^ 32 ∧ header.numShort.toNat = names.length % 256 ∧
      ((namesData names).length < 2 ^ 16 →
        header.shortOffsetsSize = 2 ∧ header.shortSegSize.toNat = (namesData names).length) := by
  obtain ⟨hscalar, hrel, hnum32, hnum16, hseg⟩ := documentFlags_container (namesData names).length treeSize
  rw [documentHeader_container] at h ⊢
  set flags := documentFlags false (namesData names).length treeSize
  obtain ⟨hflags, hrest⟩ := h.append
  obtain ⟨hsizes, hnamesAt⟩ := hrest.append
  have hsizesLength := length_sizesPart_le flags names treeSize
  obtain ⟨header, hread, hnum, hid, hlong, hnamesSize⟩ := exists_readHeader hnum32 hnum16 names treeSize
  have hheader : readHeader versionMaxFname255 flags ⟨d, 6⟩ =
      .ok header ⟨d, 6 + (sizesPart flags names treeSize).length⟩ := hread d _ hsizes
  have hlongNames : ∀ c, header.readLongNames c = .ok [] c := by
    intro c
    rw [Header.readLongNames, hlong]
    rfl
  refine ⟨header, 6 + (sizesPart flags names treeSize).length, ?_, hnamesAt, ?_, by omega, hnum,
    fun hsize => (hnamesSize (hseg hsize)).imp_right (· hsize)⟩
  · rw [readContext, bind_ok (readFlags_of_standsAt hflags)]
    simp only
    rw [if_neg (not_not.mpr hscalar), readDictionary, bind_ok hheader]
    cases hshort : header.readShortNames ⟨d, 6 + (sizesPart flags names treeSize).length⟩ with
    | error e c => rw [bind_error hshort, bind_error hshort]
    | ok short c =>
      rw [bind_ok hshort, bind_ok hshort, bind_ok (hlongNames c), List.append_nil, hid, hrel]
      rfl
  · rw [List.length_append, List.length_append, ← Nat.add_assoc]
    rfl

/-- The dictionary is read back, and the tree segment begins behind it. -/
lemma readContext_document {names : List String} (hlen : names.length ≤ 255)
    (hsize : (namesData names).length < 2 ^ 16) {treeSize : ℕ} {d : Bytes}
    (h : StandsAt d 0 (documentHeader false names treeSize)) :
    readContext ⟨d, 0⟩ = .ok (treeContext (names.map readBack) (documentHeader false names treeSize).length)
      ⟨d, (documentHeader false names treeSize).length⟩ := by
  obtain ⟨header, q, hcontext, hnames, htotal, hq, hnum, hheader⟩ := exists_readContext h
  obtain ⟨hoffsetsSize, hsegSize⟩ := hheader hsize
  rw [Nat.mod_eq_of_lt (Nat.lt_succ_of_le hlen)] at hnum
  have hshort := readShortFieldNames_of_standsAt hlen hsize hnum hsegSize hq hnames
  rw [hcontext, Header.readShortNames, hoffsetsSize, bind_ok hshort, ← htotal]
  rfl

/-! ## Documents -/

/-- Nothing in a document is truncated: it has at most 255 different keys, none of which has more than 255 bytes,
and in its tree segment every length of a text and every offset has four bytes at most. -/
structure Representable (value : Json) : Prop where
  /-- the number of the field names has one byte -/
  numKeys : value.keys.dedup.length ≤ 255
  /-- and so has the length of every name -/
  lengthKeys : ∀ key ∈ value.keys, (asBytes key).length ≤ 255
  /-- the texts and the offsets -/
  nodeFits : NodeFits 0 value

/-- The children of a container are encoded, if every single one is. -/
lemma exists_encodeItems {names : List String} {items : List Json}
    (h : ∀ item ∈ items, ∀ pos, ∃ b, encodeNode names pos item = .ok b) (pos : ℕ) :
    ∃ children, encodeItems names pos items = .ok children := by
  induction items generalizing pos with
  | nil => exact ⟨_, rfl⟩
  | cons item items ih =>
    obtain ⟨hitem, hitems⟩ := List.forall_mem_cons.mp h
    obtain ⟨b, hb⟩ := hitem pos
    obtain ⟨rest, hrest⟩ := ih hitems (pos + b.length)
    refine ⟨(pos :: rest.1, b ++ rest.2), ?_⟩
    simp only [encodeItems, hb, hrest, bind, Except.bind]
    rfl

/-- A document is encoded. -/
lemma exists_encodeNode {value : Json} (hdoc : value.IsDocument) (names : List String) (pos : ℕ) :
    ∃ b, encodeNode names pos value = .ok b := by
  induction hdoc generalizing pos with
  | null => exact ⟨_, rfl⟩
  | bool flag =>
    cases flag
    all_goals exact ⟨_, rfl⟩
  | integer n =>
    obtain ⟨b, hb, -⟩ := exists_encodeNumber n
    exact ⟨b, hb⟩
  | string s => exact ⟨_, rfl⟩
  | @array items hitems ih =>
    obtain ⟨children, hchildren⟩ := exists_encodeItems ih _
    exact ⟨_, by rw [encodeNode, hchildren]; rfl⟩
  | @object fields hsorted hfields ih =>
    obtain ⟨children, hchildren⟩ := exists_encodeItems (List.forall_mem_map.mpr ih) _
    rw [← encodeFields_eq] at hchildren
    exact ⟨_, by rw [encodeNode, hchildren]; rfl⟩

/-- What the encoder writes of a scalar depends on nothing else. -/
lemma of_isScalarDocument {value : Json} (h : isScalarDocument value = true) :
    value.keys = [] ∧ (∀ names pos names' pos', encodeNode names pos value = encodeNode names' pos' value) ∧
      ∀ pos pos', NodeFits pos value → NodeFits pos' value := by
  cases value with
  | null | number | string => exact ⟨rfl, fun _ _ _ _ => rfl, fun _ _ => id⟩
  | bool flag =>
    cases flag
    all_goals exact ⟨rfl, fun _ _ _ _ => rfl, fun _ _ => id⟩
  | array | object => exact absurd h Bool.false_ne_true

/-- The header of a scalar is skipped. -/
lemma readContext_scalar {names : List String} {treeSize : ℕ} {d : Bytes}
    (h : StandsAt d 0 (documentHeader true names treeSize)) :
    readContext ⟨d, 0⟩ = .ok (treeContext [] 0) ⟨d, (documentHeader true names treeSize).length⟩ := by
  obtain ⟨hscalar, hrel⟩ := documentFlags_scalar (namesData names).length treeSize
  rw [documentHeader_scalar] at h ⊢
  set flags := documentFlags true (namesData names).length treeSize
  have hposition : position ⟨d, 6⟩ = .ok 6 ⟨d, 6⟩ := rfl
  have hadd : addUsize 6 (if flags &&& flagTreeSegUint32 ≠ 0 then 4 else 2) =
      .ok (flagsPart flags ++ encodeSegSize flags flagTreeSegUint32 treeSize).length := by
    rw [encodeSegSize, List.length_append, BigEndian.length_digits]
    split_ifs
    all_goals rfl
  have hskip : skip (if flags &&& flagTreeSegUint32 ≠ 0 then 4 else 2) ⟨d, 6⟩ =
      .ok () ⟨d, (flagsPart flags ++ encodeSegSize flags flagTreeSegUint32 treeSize).length⟩ := by
    rw [skip, bind_ok hposition, bind_liftExcept_ok hadd]
    rfl
  rw [readContext, bind_ok (readFlags_of_standsAt h.append.1)]
  simp only
  rw [if_pos hscalar, skipScalarHeader, bind_ok hskip, hrel]
  rfl

/-- The tree segment begins not far from the beginning of the document. -/
lemma length_documentHeader_lt {names : List String} (hlen : names.length ≤ 255)
    (hsize : (namesData names).length < 2 ^ 16) (scalar : Bool) (treeSize : ℕ) :
    (documentHeader scalar names treeSize).length < 2 ^ 32 := by
  have hoffsets := length_offsetsBytes names
  have hsix : ∀ flags, (flagsPart flags).length = 6 := fun _ => rfl
  cases scalar with
  | false =>
    have hsizes := length_sizesPart_le (documentFlags false (namesData names).length treeSize) names treeSize
    simp only [documentHeader_container, namesPart, List.length_append, List.length_map, hsix]
    omega
  | true =>
    have htree := length_encodeSegSize_le (documentFlags true (namesData names).length treeSize)
      flagTreeSegUint32 treeSize
    simp only [documentHeader_scalar, List.length_append, hsix]
    omega

/-- The decoder reads a node behind the header. -/
lemma decode_of_yieldsAt {floats : FloatText} {fuel p : ℕ} {d : Bytes} {context : Context} {value : Json}
    (hcontext : readContext ⟨d, 0⟩ = .ok context ⟨d, p⟩)
    (h : YieldsAt (decodeNode floats context fuel) d p value) : decode floats fuel d = .ok value := by
  obtain ⟨q, hq⟩ := h
  have hparse : parse floats fuel ⟨d, 0⟩ = .ok value ⟨d, q⟩ := (bind_ok hcontext).trans hq
  rw [decode, ReadM.runOn, hparse]

/-- A representable document is read back. -/
theorem decode_encode (floats : FloatText) {value : Json} (hdoc : value.IsDocument) (hrep : Representable value) :
    ∃ bytes, encode value = .ok bytes ∧ ∀ fuel, value.depth ≤ fuel → decode floats fuel bytes = .ok value := by
  obtain ⟨tree, htree⟩ := exists_encodeNode hdoc (dictionary value) 0
  have hperm := perm_dictionary value
  have hlen : (dictionary value).length ≤ 255 := hperm.length_eq.trans_le hrep.numKeys
  have hmem : ∀ key, key ∈ dictionary value ↔ key ∈ value.keys := fun key => by rw [hperm.mem_iff, List.mem_dedup]
  have hnames : ∀ name ∈ dictionary value, (asBytes name).length ≤ 255 := fun name hname =>
    hrep.lengthKeys name ((hmem name).mp hname)
  have hsize : (namesData (dictionary value)).length < 2 ^ 16 := by
    have hdata := length_namesData_le hnames
    omega
  have hback : (dictionary value).map readBack = dictionary value :=
    (List.map_congr_left fun name hname => readBack_of_le (hnames name hname)).trans (List.map_id _)
  refine ⟨documentHeader (isScalarDocument value) (dictionary value) tree.length ++ tree, ?_, fun fuel hfuel => ?_⟩
  · rw [encode, htree]
    rfl
  obtain ⟨hheader, htreeAt⟩ := (standsAt_self
    (documentHeader (isScalarDocument value) (dictionary value) tree.length ++ tree)).append
  have hlt := length_documentHeader_lt hlen hsize (isScalarDocument value) tree.length
  cases hscalar : isScalarDocument value with
  | false =>
    rw [hscalar] at hheader htreeAt hlt
    refine decode_of_yieldsAt (readContext_document hlen hsize hheader) ?_
    generalize documentHeader false (dictionary value) tree.length = header at htreeAt hlt ⊢
    rw [Nat.zero_add] at htreeAt
    rw [hback]
    exact yieldsAt_decodeNode floats hlt hlen hdoc hfuel (fun key => (hmem key).mpr) (Nat.two_pow_pos 32)
      hrep.nodeFits htree htreeAt
  | true =>
    rw [hscalar] at hheader htreeAt hlt
    obtain ⟨hkeys, hencode, hfits⟩ := of_isScalarDocument hscalar
    refine decode_of_yieldsAt (readContext_scalar hheader) ?_
    generalize documentHeader true (dictionary value) tree.length = header at htreeAt hlt ⊢
    rw [← Nat.zero_add header.length]
    have hnone : ([] : List String).length ≤ 255 := Nat.zero_le 255
    exact yieldsAt_decodeNode floats (Nat.two_pow_pos 32) hnone hdoc hfuel
      (by rw [hkeys]; exact fun _ => id) hlt (hfits _ _ hrep.nodeFits) ((hencode _ _ _ _).trans htree) htreeAt

end OracleRs.Oson
