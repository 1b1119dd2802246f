import OracleRs.Messages.BindValue
import OracleRs.Response.Row
import OracleRs.Types.PickleRoundTrip

set_option relaxedAutoImplicit false
set_option autoImplicit false

/-!
# Collections as bind values and as column values

`write_collection_with_data` writes the type identifier of a collection behind its length and then
once more behind its length, as a byte string; `parse_object_value` skips as many raw bytes as the
first length says. The reader thus stops short of the identifier's end. For short identifiers the
bytes that are left over happen to read as the zeros that follow; for longer ones they do not.

## Main definitions

* `OracleRs.objectBytes` — what is written of a collection.
* `OracleRs.ObjectRoundTrips` — the collection is read back from what is written of it.

## Main results

* `OracleRs.objectRoundTrips_iff` — which collections are read back.
-/

namespace OracleRs

open Cursor
open Sink (Writes)

/-! ## What is written of a collection -/

/-- Bytes behind their length, as the driver writes them. -/
def lengthPrefixed (data : Bytes) : Bytes := (ByteString.ofBytes data).encode

/-- What is written of a collection behind its type identifier: the OID, the snapshot and the
version, which are zero, the size of the image, the flags, and the image. -/
def objectTail (image : Bytes) : Bytes :=
  ubBytes (UInt32.ofNat image.length).toNat ++ ([1, 1] ++ lengthPrefixed image)

/-- What is written of a collection. -/
def objectBytes (toid image : Bytes) : Bytes :=
  ubBytes (UInt32.ofNat toid.length).toNat ++
    (lengthPrefixed toid ++ ([0] ++ ([0] ++ ([0] ++ objectTail image))))

/-- The type OID that the driver keeps in a collection. -/
def DbObject.typeOid (collection : DbObject) : Option Bytes :=
  (collection.get "_type_oid").bind Value.asBytes

/-- The encoders with the encoder for collections of `types/pickle.rs`. -/
def Encoders.pickling (encoders : Encoders) (rendering : Rendering) : Encoders :=
  { encoders with encodeCollection := OracleRs.encodeCollection rendering }

/-- The codecs with the decoder for collections of `types/pickle.rs`. -/
def Codecs.pickling (codecs : Codecs) : Codecs :=
  { codecs with decodeCollection := OracleRs.decodeCollection }

lemma writes_writeCollectionWithData {encoders : Encoders} {collection : DbObject}
    {typeOid image : Bytes} (hoid : collection.typeOid = some typeOid)
    (himage : encoders.encodeCollection collection collection.collectionType = .ok image) :
    Writes (writeCollectionWithData encoders collection)
      (objectBytes (collectionToid typeOid) image) := by
  have hzero : Writes (writeUb4 0) [0] := writes_writeUb4 0
  have hbytes (data : Bytes) : Writes (writeBytesWithLength (some data)) (lengthPrefixed data) :=
    writes_writeBytesWithLength (some data)
  have hrest : Writes (do
      writeUb4 (UInt32.ofNat (collectionToid typeOid).length)
      writeBytesWithLength (some (collectionToid typeOid))
      writeUb4 0
      writeUb4 0
      writeUb4 0
      writeUb4 (UInt32.ofNat image.length)
      writeUb4 topLevel.toUInt32
      writeBytesWithLength (some image) : WriteM Unit) (objectBytes (collectionToid typeOid) image) :=
    (writes_writeUb4 _).bind <| (hbytes _).bind <| hzero.bind <| hzero.bind <| hzero.bind <|
      (writes_writeUb4 _).bind <| (writes_writeUb4 1).bind <| hbytes image
  unfold DbObject.typeOid at hoid
  simp only [writeCollectionWithData, hoid, himage]
  exact hrest

/-! ## What is read of it -/

section Reading

variable {codecs : Codecs} {col : ColumnInfo}

/-- Reading a zero of two bytes. -/
private lemma reads_zero2 (u : Ub 2) (h : u.value = 0) : Reads readUb2 u.encode 0 := by
  have := u.reads_readUb2
  rwa [h] at this

private lemma reads_zero4 (u : Ub 4) (h : u.value = 0) : Reads readUb4 u.encode 0 := by
  have := u.reads_readUb4
  rwa [h] at this

/-- The reader of an object, from the size of its image on. -/
def parsePacked (codecs : Codecs) (col : ColumnInfo) : ReadM Value := do
  let dataLen ← readUb4
  let _flags ← readUb2
  if dataLen = 0 then
    return .null
  let packedData ← readBytesWithLength
  let data := packedData.getD []
  return if data = [] then .null else objectValue codecs col data

/-- As many raw bytes as the first length says are skipped; behind them stand zeros for the OID, the
snapshot and the version, however each of them is written. -/
lemma reads_parseObjectValue {toidLen : UInt32} {skipped : Bytes} (oid snapshot : Ub 4)
    (version : Ub 2) {b : Bytes} {v : Value} (hlen : skipped.length = toidLen.toNat)
    (hoid : oid.value = 0) (hsnapshot : snapshot.value = 0) (hversion : version.value = 0)
    (h : Reads (parsePacked codecs col) b v) :
    Reads (parseObjectValue codecs col) (ubBytes toidLen.toNat ++
      (skipped ++ (oid.encode ++ (snapshot.encode ++ (version.encode ++ b))))) v := by
  have hsnapshotNone : Reads (indicated4 skipRawBytesChunked) snapshot.encode none := by
    refine (reads_zero4 snapshot hsnapshot).bind_nil ?_
    exact Reads.pure none
  have hoidNil : Reads (readBytesVec 0) [] [] := reads_readBytesVec []
  have hskip : Reads (readBytesVec toidLen.toNat) skipped skipped := by
    rw [← hlen]
    exact reads_readBytesVec skipped
  refine (reads_ubBytes4 toidLen).bind (hskip.bind ((reads_zero4 oid hoid).bind ?_))
  exact hoidNil.bind (hsnapshotNone.bind ((reads_zero2 version hversion).bind h))

/-- The image of a collection of the column's type is decoded. -/
lemma reads_parsePacked {image : Bytes} (htail : ∃ tail, image = 0x88 :: tail)
    (hsize : image.length % 2 ^ 32 ≠ 0) (v : Value)
    (hv : objectValue codecs col image = v) :
    Reads (parsePacked codecs col) (objectTail image) v := by
  obtain ⟨tail, himage⟩ := htail
  have hne : UInt32.ofNat image.length ≠ 0 := by
    rw [ne_eq, ← UInt32.toNat_inj, UInt32.toNat_ofNat']
    exact hsize
  have hbytes : Reads readBytesWithLength (lengthPrefixed image) (some image) := by
    have := (ByteString.ofBytes image).reads_readBytesWithLength
    rwa [ByteString.content_ofBytes] at this
  refine (reads_ubBytes4 _).bind ((reads_ubBytes2 1).bind ?_)
  rw [if_neg hne]
  refine hbytes.bind_nil ?_
  change Reads (pure (if image = [] then .null else objectValue codecs col image)) [] v
  rw [if_neg (by simp [himage]), hv]
  exact Reads.pure v

/-- An image of size zero is not looked at. -/
lemma reads_parsePacked_zero (size : Ub 4) (flags : Ub 2) (h : size.value = 0) :
    Reads (parsePacked codecs col) (size.encode ++ flags.encode) .null := by
  refine (reads_zero4 size h).bind (flags.reads_readUb2.bind_nil ?_)
  exact Reads.pure _

end Reading

/-! ## Short type identifiers -/

/-- The type identifier without its last byte. -/
def toidInit (typeOid : Bytes) : Bytes :=
  [0x00, 0x22, 0x02, 0x08] ++ typeOid ++ [0, 0, 0, 0, 0, 0, 0, 0, 0, 0, 0, 0, 0, 1, 0]

/-- The length byte of a short identifier takes the place of the identifier's last byte, which is
left over and read as the length of a zero. -/
lemma objectBytes_short {typeOid image : Bytes} (h : typeOid.length ≤ 232) :
    objectBytes (collectionToid typeOid) image =
      ubBytes (UInt32.ofNat (collectionToid typeOid).length).toNat ++
        ((UInt8.ofNat (collectionToid typeOid).length :: toidInit typeOid) ++
          ((Ub.byte 0 : Ub 4).encode ++ ((Ub.zero : Ub 4).encode ++ ((Ub.zero : Ub 2).encode ++
            objectTail image)))) := by
  have hshort : (collectionToid typeOid).length ≤ 252 := by
    rw [length_collectionToid]
    omega
  have hinit : collectionToid typeOid = toidInit typeOid ++ [1] := by
    simp [collectionToid, toidInit, extentOid]
  have hbytes : lengthPrefixed (collectionToid typeOid) =
      UInt8.ofNat (collectionToid typeOid).length :: (toidInit typeOid ++ [1]) := by
    rw [lengthPrefixed, ByteString.ofBytes, dif_pos hshort, ByteString.encode, ← hinit]
  rw [objectBytes, hbytes]
  simp [Ub.encode, Ub.byte, Ub.zero]

/-! ## Longer type identifiers -/

/-- A byte string that takes one chunk. -/
lemma lengthPrefixed_chunk {data : Bytes} (hlow : 252 < data.length) (hhigh : data.length ≤ chunkSize) :
    lengthPrefixed data = longIndicator :: (ubBytes data.length ++ (data ++ [0])) := by
  obtain ⟨n, hn⟩ := Nat.exists_eq_succ_of_ne_zero (show data.length ≠ 0 by omega)
  have hne : data ≠ [] := List.ne_nil_of_length_pos (by omega)
  have htake : data.take chunkSize = data := List.take_of_length_le hhigh
  have hdrop : data.drop chunkSize = [] := List.drop_of_length_le hhigh
  have hrest : chunksOf n [] = [] := by cases n <;> simp [chunksOf]
  rw [lengthPrefixed, ByteString.ofBytes, dif_neg (by omega), ByteString.encode,
    ByteString.encodeChunks]
  conv_lhs => rw [hn, chunksOf, dif_neg hne]
  simp [hdrop, hrest, htake, Ub.encode_shortest]

/-- The chunk's length takes the place of the last bytes of the identifier, which are left over: the
size of the image is then read from the zeros in front of it. -/
lemma exists_objectBytes_chunk {typeOid : Bytes} (image : Bytes) (hlow : 232 < typeOid.length)
    (hhigh : typeOid.length ≤ 32747) :
    ∃ (skipped rest : Bytes) (oid snapshot : Ub 4) (version : Ub 2),
      skipped.length = (UInt32.ofNat (collectionToid typeOid).length).toNat ∧
      oid.value = 0 ∧ snapshot.value = 0 ∧ version.value = 0 ∧
      objectBytes (collectionToid typeOid) image =
        ubBytes (UInt32.ofNat (collectionToid typeOid).length).toNat ++ (skipped ++ (oid.encode ++
          (snapshot.encode ++ (version.encode ++ ((Ub.zero : Ub 4).encode ++
            (Ub.zero : Ub 2).encode))))) ++ rest := by
  have hlen := length_collectionToid typeOid
  have hmod : (UInt32.ofNat (collectionToid typeOid).length).toNat = typeOid.length + 20 := by
    rw [UInt32.toNat_ofNat', Nat.mod_eq_of_lt (by omega), hlen]
  have hbytes : lengthPrefixed (collectionToid typeOid) = _ :=
    lengthPrefixed_chunk (by omega) (by rw [hlen, chunkSize]; omega)
  by_cases hbyte : typeOid.length + 20 ≤ 255
  · have hub : ubBytes (typeOid.length + 20) = [1, UInt8.ofNat (typeOid.length + 20)] := by
      rw [ubBytes, ubWidth, if_neg (by omega), if_pos hbyte]
      rfl
    refine ⟨[longIndicator, 1, UInt8.ofNat (typeOid.length + 20)] ++ ([0x00, 0x22, 0x02, 0x08] ++
      typeOid ++ [0, 0, 0, 0, 0, 0, 0, 0, 0, 0, 0, 0, 0]), objectTail image, Ub.byte 0, Ub.byte 0,
      Ub.zero, ?_, rfl, rfl, rfl, ?_⟩
    · rw [hmod]
      simp
    · rw [objectBytes, hmod, hbytes, hlen, hub]
      simp [Ub.encode, Ub.byte, Ub.zero, collectionToid, extentOid]
  · obtain ⟨high, low, hub⟩ : ∃ high low, ubBytes (typeOid.length + 20) = [2, high, low] := by
      rw [ubBytes, ubWidth, if_neg (by omega), if_neg hbyte, if_pos (by omega)]
      exact ⟨_, _, rfl⟩
    refine ⟨[longIndicator, 2, high, low] ++ ([0x00, 0x22, 0x02, 0x08] ++ typeOid ++
      [0, 0, 0, 0, 0, 0, 0, 0, 0, 0, 0, 0]), 0 :: objectTail image, Ub.zero, Ub.byte 0, Ub.byte 0,
      ?_, rfl, rfl, rfl, ?_⟩
    · rw [hmod]
      simp
    · rw [objectBytes, hmod, hbytes, hlen, hub]
      simp [Ub.encode, Ub.byte, Ub.zero, collectionToid, extentOid]

/-! ## Collections -/

/-- The column has the type of the collection. -/
def ColumnInfo.IsFor (col : ColumnInfo) (t : DbObjectType) : Prop :=
  col.collectionType = some t.collectionType ∧ col.elementType = some t.elementType

/-- The names of a type matter only for the name of the decoded collection. -/
lemma exists_decodeCollection_of_ok {t t' : DbObjectType} {image : Bytes} {decoded : DbObject}
    (hkind : t'.collectionType = t.collectionType) (helement : t'.elementType = t.elementType)
    (h : decodeCollection t image = .ok decoded) :
    ∃ decoded', decodeCollection t' image = .ok decoded' ∧ decoded'.elements = decoded.elements := by
  have hread : readElement t' = readElement t := by rw [readElement, readElement, hkind, helement]
  have himage : readImage t' =
      (fun o => DbObject.collection t'.fullName o.elements) <$> readImage t := by
    simp only [readImage, hread, map_bind, map_pure]
    rfl
  unfold decodeCollection at h ⊢
  split_ifs at h ⊢ with hnil
  · cases h
    exact ⟨_, rfl, rfl⟩
  · unfold ReadM.runOn at h ⊢
    split at h
    · next hok =>
      cases h
      refine ⟨.collection t'.fullName decoded.elements, ?_, rfl⟩
      rw [himage]
      simp only [Functor.map, EStateM.map, hok]
    · cases h

/-- What an object column of the collection's type makes of its image. -/
lemma exists_objectValue (codecs : Codecs) {col : ColumnInfo} {t : DbObjectType} {image : Bytes}
    {decoded : DbObject} (hcol : col.IsFor t) (htail : ∃ tail, image = 0x88 :: tail)
    (h : decodeCollection t image = .ok decoded) :
    ∃ read, objectValue codecs.pickling col image = .collection read ∧
      read.elements = decoded.elements := by
  obtain ⟨tail, rfl⟩ := htail
  obtain ⟨hkind, helement⟩ := hcol
  let described : DbObjectType := ⟨col.typeSchema.getD "", col.typeName.getD "UNKNOWN",
    col.collectionType.getD .varray, col.elementType.getD .varchar⟩
  have hdescribed : described.collectionType = t.collectionType := by simp [described, hkind]
  obtain ⟨read, hread, hsame⟩ :=
    exists_decodeCollection_of_ok hdescribed (by simp [described, helement]) h
  refine ⟨read, ?_, hsame⟩
  have hflag : (0x88 : UInt8) &&& 0x08 ≠ 0 := by decide
  rw [objectValue, List.headD_cons, if_pos hflag, Codecs.pickling]
  simp only [described] at hread
  simp only [hread]

/-- The collection is written, and what is written of it is read as a collection with the elements
of `decoded`. -/
def ObjectRoundTrips (encoders : Encoders) (codecs : Codecs) (col : ColumnInfo)
    (collection decoded : DbObject) : Prop :=
  ∃ (buf : WriteBuffer) (read : DbObject),
    writeCollectionWithData encoders collection Sink.empty = .ok () buf ∧
    Reads (parseObjectValue codecs col) buf.data (.collection read) ∧
    read.elements = decoded.elements

section RoundTrip

variable (encoders : Encoders) (rendering : Rendering) (codecs : Codecs) {col : ColumnInfo}
  {collection decoded : DbObject} {typeOid image : Bytes}

/-- A collection is not read back if NULL is read from the beginning of what is written of it. -/
lemma not_objectRoundTrips_of_null {b rest : Bytes}
    (hwrite : Writes (writeCollectionWithData encoders collection) (b ++ rest))
    (h : Reads (parseObjectValue codecs col) b .null) :
    ¬ ObjectRoundTrips encoders codecs col collection decoded := by
  rintro ⟨buf, read, hbuf, hread, -⟩
  rw [hwrite Sink.empty (Sink.hasRoom_empty _)] at hbuf
  cases hbuf
  obtain ⟨hnull, -⟩ := h.unique hread (List.append_nil _).symm
  cases hnull

/-- A collection that is written is read back with the elements of its image if its type OID has at
most 232 bytes and the number of bytes of its image is not divisible by `2 ^ 32`. Among the OIDs of
at most 32747 bytes there are no others with which it is read back.

**Proof sketch.** The type identifier ends with the bytes 1, 0, 1, and three zeros follow it: as
many bytes are left over as the identifier has length bytes, and they read as zeros. Beyond 232
bytes the zeros that follow include the size of the image. -/
theorem objectRoundTrips_iff (hoid : collection.typeOid = some typeOid)
    (hcol : col.IsFor collection.collectionType)
    (himage : encodeCollection rendering collection collection.collectionType = .ok image)
    (hdecode : decodeCollection collection.collectionType image = .ok decoded) :
    (typeOid.length ≤ 232 ∧ image.length % 2 ^ 32 ≠ 0 →
      ObjectRoundTrips (encoders.pickling rendering) codecs.pickling col collection decoded) ∧
    (typeOid.length ≤ 32747 →
      ObjectRoundTrips (encoders.pickling rendering) codecs.pickling col collection decoded →
      typeOid.length ≤ 232 ∧ image.length % 2 ^ 32 ≠ 0) := by
  have hwrite : Writes (writeCollectionWithData (encoders.pickling rendering) collection)
      (objectBytes (collectionToid typeOid) image) := writes_writeCollectionWithData hoid himage
  have htail := exists_cons_of_encodeCollection himage
  have hskipped (h : typeOid.length ≤ 232) :
      (UInt8.ofNat (collectionToid typeOid).length :: toidInit typeOid).length =
        (UInt32.ofNat (collectionToid typeOid).length).toNat := by
    have hlen := length_collectionToid typeOid
    rw [UInt32.toNat_ofNat', Nat.mod_eq_of_lt (by omega), hlen]
    simp [toidInit]
  constructor
  · rintro ⟨hshort, hsize⟩
    obtain ⟨read, hvalue, hsame⟩ := exists_objectValue codecs hcol htail hdecode
    refine ⟨_, read, hwrite Sink.empty (Sink.hasRoom_empty _), ?_, hsame⟩
    change Reads _ (objectBytes (collectionToid typeOid) image) _
    rw [objectBytes_short hshort]
    exact reads_parseObjectValue _ _ _ (hskipped hshort) rfl rfl rfl
      (reads_parsePacked htail hsize _ hvalue)
  · intro hchunk htrip
    by_contra hcondition
    by_cases hshort : typeOid.length ≤ 232
    · have hsize : image.length % 2 ^ 32 = 0 := by
        by_contra hsize
        exact hcondition ⟨hshort, hsize⟩
      have hzero : objectTail image = (Ub.zero : Ub 4).encode ++ (Ub.byte 1 : Ub 2).encode ++
          lengthPrefixed image := by
        rw [objectTail, UInt32.toNat_ofNat', hsize]
        rfl
      rw [objectBytes_short hshort, hzero] at hwrite
      simp only [← List.append_assoc] at hwrite
      refine not_objectRoundTrips_of_null _ _ hwrite ?_ htrip
      simp only [List.append_assoc]
      exact reads_parseObjectValue _ _ _ (hskipped hshort) rfl rfl rfl
        (reads_parsePacked_zero _ _ rfl)
    · obtain ⟨skipped, rest, oid, snapshot, version, hlen, hoid, hsnapshot, hversion, hbytes⟩ :=
        exists_objectBytes_chunk image (not_le.mp hshort) hchunk
      rw [hbytes] at hwrite
      exact not_objectRoundTrips_of_null _ _ hwrite (reads_parseObjectValue _ _ _ hlen hoid hsnapshot
        hversion (reads_parsePacked_zero _ _ rfl)) htrip

end RoundTrip

/-! ## OIDs of 16 and of 233 bytes -/

/-- A VARRAY of one NULL, of a type with an OID of `n` bytes. -/
def nullArray (n : ℕ) : DbObject :=
  .mk "HR.NAMES" [("_TYPE_OID", .bytes (List.replicate n 0))] [.null] true

/-- An object column of such a type. -/
def arrayColumn : ColumnInfo :=
  { name := "NAMES", oracleType := .object, collectionType := some .varray, elementType := some .varchar }

lemma typeOid_nullArray (n : ℕ) : (nullArray n).typeOid = some (List.replicate n 0) := by
  have hname : "_type_oid".toUpper = "_TYPE_OID" := by decide +kernel
  rw [DbObject.typeOid, DbObject.get, hname]
  rfl

lemma collectionType_nullArray (n : ℕ) :
    (nullArray n).collectionType = ⟨"", "", .varray, .varchar⟩ := by
  have hget {name : String} (h : name.toUpper ≠ "_TYPE_OID") : (nullArray n).get name = none := by
    have hbeq : (name.toUpper == "_TYPE_OID") = false := beq_false_of_ne h
    simp only [DbObject.get, nullArray, DbObject.values, List.lookup_cons, List.lookup_nil, hbeq]
  rw [DbObject.collectionType, hget (by decide +kernel), hget (by decide +kernel),
    hget (by decide +kernel), hget (by decide +kernel)]
  rfl

lemma encodeCollection_nullArray (n : ℕ) :
    encodeCollection .blank (nullArray n) ⟨"", "", .varray, .varchar⟩ =
      .ok [0x88, 1, 254, 0, 0, 0, 12, 1, 1, 3, 1, 255] := by
  have helements : ∀ e ∈ (nullArray n).elements, e.ElementOf .varchar :=
    List.forall_mem_singleton.mpr trivial
  rw [encodeCollection_eq helements, show (nullArray n).elements = [.null] from rfl]
  rfl

lemma decodeCollection_nullArray :
    decodeCollection ⟨"", "", .varray, .varchar⟩ [0x88, 1, 254, 0, 0, 0, 12, 1, 1, 3, 1, 255] =
      .ok (.collection "." [.null]) := rfl

/-- With an OID of 16 bytes the array is read back. -/
theorem objectRoundTrips_nullArray :
    ObjectRoundTrips (Encoders.rejecting.pickling .blank) Codecs.rejecting.pickling arrayColumn
      (nullArray 16) (.collection "." [.null]) := by
  have htype := collectionType_nullArray 16
  have hcol : arrayColumn.IsFor (nullArray 16).collectionType := by
    rw [htype]
    exact ⟨rfl, rfl⟩
  have himage := encodeCollection_nullArray 16
  have hdecode := decodeCollection_nullArray
  rw [← htype] at himage hdecode
  exact (objectRoundTrips_iff .rejecting .blank .rejecting (typeOid_nullArray 16) hcol himage
    hdecode).1 ⟨Nat.le_of_ble_eq_true rfl, by decide⟩

/-- With an OID of 233 bytes the array is read as NULL. -/
theorem not_objectRoundTrips_nullArray :
    ¬ ObjectRoundTrips (Encoders.rejecting.pickling .blank) Codecs.rejecting.pickling arrayColumn
      (nullArray 233) (.collection "." [.null]) := by
  have himage : (Encoders.rejecting.pickling .blank).encodeCollection (nullArray 233)
      (nullArray 233).collectionType = .ok [0x88, 1, 254, 0, 0, 0, 12, 1, 1, 3, 1, 255] := by
    rw [collectionType_nullArray]
    exact encodeCollection_nullArray 233
  have hlow : 232 < (List.replicate 233 (0 : UInt8)).length := by
    rw [List.length_replicate]
    omega
  have hhigh : (List.replicate 233 (0 : UInt8)).length ≤ 32747 := by
    rw [List.length_replicate]
    omega
  obtain ⟨skipped, rest, oid, snapshot, version, hlen, hoid, hsnapshot, hversion, hbytes⟩ :=
    exists_objectBytes_chunk [0x88, 1, 254, 0, 0, 0, 12, 1, 1, 3, 1, 255] hlow hhigh
  have hwrite := writes_writeCollectionWithData (typeOid_nullArray 233) himage
  rw [hbytes] at hwrite
  exact not_objectRoundTrips_of_null _ _ hwrite (reads_parseObjectValue _ _ _ hlen hoid hsnapshot
    hversion (reads_parsePacked_zero _ _ rfl))

end OracleRs
