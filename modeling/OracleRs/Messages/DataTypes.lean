import OracleRs.Messages.Protocol

set_option relaxedAutoImplicit false
set_option autoImplicit false

/-!
# Negotiation of the data types

The message behind the protocol negotiation (`messages/data_types.rs`): the client sends its capabilities and a
list of data types with their representations, the server answers with a list of its own. An answer has a type
that it refuses without a representation. The list ends with a type that is zero.

## Main definitions

* `OracleRs.dataTypes` — the list of the client, `OracleRs.DataTypesMessage.encode` — the request.
* `OracleRs.DataTypesMessage.parseBody` — the loop over the answers.
* `OracleRs.TypeAnswer` — an answer.

## Main results

* `OracleRs.DataTypesMessage.reads_parseBody_iff` — the loop reads exactly the lists of answers.
* `OracleRs.DataTypesMessage.reads_dataTypes` — the list of the client is one of these.
-/

namespace OracleRs

open Cursor
open Sink (Writes)

/-- `MessageType::DataTypes`. -/
def messageTypeDataTypes : UInt8 := 2

/-- `encoding::MULTI_BYTE`. -/
def encodingMultiByte : UInt8 := 0x01

/-- `encoding::CONV_LENGTH`. -/
def encodingConvLength : UInt8 := 0x02

/-- A data type (`DataTypeDefinition`). -/
structure DataTypeDefinition where
  /-- the data type -/
  dataType : UInt16
  /-- the data type it is converted to -/
  convDataType : UInt16
  /-- the representation -/
  representation : UInt16
deriving DecidableEq, Repr, Inhabited

/-- `DATA_TYPES`. -/
def dataTypes : List DataTypeDefinition :=
  [⟨1, 1, 1⟩, ⟨2, 2, 10⟩, ⟨8, 8, 1⟩, ⟨12, 12, 10⟩, ⟨23, 23, 1⟩, ⟨24, 24, 1⟩, ⟨25, 25, 1⟩, ⟨26, 26, 1⟩,
    ⟨27, 27, 10⟩, ⟨28, 28, 1⟩, ⟨29, 29, 1⟩, ⟨30, 30, 1⟩, ⟨31, 31, 1⟩, ⟨32, 32, 1⟩, ⟨33, 33, 1⟩,
    ⟨10, 10, 1⟩, ⟨11, 11, 1⟩, ⟨40, 40, 1⟩, ⟨41, 41, 1⟩, ⟨117, 117, 1⟩, ⟨120, 120, 1⟩, ⟨290, 290, 1⟩,
    ⟨291, 291, 1⟩, ⟨292, 292, 1⟩, ⟨293, 293, 1⟩, ⟨294, 294, 1⟩, ⟨298, 298, 1⟩, ⟨299, 299, 1⟩,
    ⟨300, 300, 1⟩, ⟨301, 301, 1⟩, ⟨302, 302, 1⟩, ⟨303, 303, 1⟩, ⟨304, 304, 1⟩, ⟨305, 305, 1⟩,
    ⟨306, 306, 1⟩, ⟨307, 307, 1⟩, ⟨308, 308, 1⟩, ⟨309, 309, 1⟩, ⟨310, 310, 1⟩, ⟨311, 311, 1⟩,
    ⟨312, 312, 1⟩, ⟨313, 313, 1⟩, ⟨315, 315, 1⟩, ⟨316, 316, 1⟩, ⟨317, 317, 1⟩, ⟨318, 318, 1⟩,
    ⟨319, 319, 1⟩, ⟨320, 320, 1⟩, ⟨321, 321, 1⟩, ⟨322, 322, 1⟩, ⟨323, 323, 1⟩, ⟨327, 327, 1⟩,
    ⟨328, 328, 1⟩, ⟨329, 329, 1⟩, ⟨331, 331, 1⟩, ⟨333, 333, 1⟩, ⟨334, 334, 1⟩, ⟨335, 335, 1⟩,
    ⟨336, 336, 1⟩, ⟨337, 337, 1⟩, ⟨338, 338, 1⟩, ⟨339, 339, 1⟩, ⟨340, 340, 1⟩, ⟨341, 341, 1⟩,
    ⟨342, 342, 1⟩, ⟨343, 343, 1⟩, ⟨344, 344, 1⟩, ⟨345, 345, 1⟩, ⟨346, 346, 1⟩, ⟨348, 348, 1⟩,
    ⟨349, 349, 1⟩, ⟨354, 354, 1⟩, ⟨355, 355, 1⟩, ⟨359, 359, 1⟩, ⟨363, 363, 1⟩, ⟨380, 380, 1⟩,
    ⟨381, 381, 1⟩, ⟨382, 382, 1⟩, ⟨383, 383, 1⟩, ⟨384, 384, 1⟩, ⟨385, 385, 1⟩, ⟨386, 386, 1⟩,
    ⟨387, 387, 1⟩, ⟨388, 388, 1⟩, ⟨389, 389, 1⟩, ⟨390, 390, 1⟩, ⟨391, 391, 1⟩, ⟨393, 393, 1⟩,
    ⟨394, 394, 1⟩, ⟨395, 395, 1⟩, ⟨396, 396, 1⟩, ⟨397, 397, 1⟩, ⟨398, 398, 1⟩, ⟨399, 399, 1⟩,
    ⟨400, 400, 1⟩, ⟨401, 401, 1⟩, ⟨404, 404, 1⟩, ⟨405, 405, 1⟩, ⟨406, 406, 1⟩, ⟨407, 407, 1⟩,
    ⟨413, 413, 1⟩, ⟨414, 414, 1⟩, ⟨415, 415, 1⟩, ⟨416, 416, 1⟩, ⟨417, 417, 1⟩, ⟨418, 418, 1⟩,
    ⟨419, 419, 1⟩, ⟨420, 420, 1⟩, ⟨421, 421, 1⟩, ⟨422, 422, 1⟩, ⟨423, 423, 1⟩, ⟨424, 424, 1⟩,
    ⟨425, 425, 1⟩, ⟨426, 426, 1⟩, ⟨427, 427, 1⟩, ⟨429, 429, 1⟩, ⟨430, 430, 1⟩, ⟨431, 431, 1⟩,
    ⟨432, 432, 1⟩, ⟨433, 433, 1⟩, ⟨449, 449, 1⟩, ⟨450, 450, 1⟩, ⟨454, 454, 1⟩, ⟨455, 455, 1⟩,
    ⟨456, 456, 1⟩, ⟨457, 457, 1⟩, ⟨458, 458, 1⟩, ⟨459, 459, 1⟩, ⟨460, 460, 1⟩, ⟨461, 461, 1⟩,
    ⟨462, 462, 1⟩, ⟨463, 463, 1⟩, ⟨466, 466, 1⟩, ⟨467, 467, 1⟩, ⟨468, 468, 1⟩, ⟨469, 469, 1⟩,
    ⟨470, 470, 1⟩, ⟨471, 471, 1⟩, ⟨472, 472, 1⟩, ⟨473, 473, 1⟩, ⟨474, 474, 1⟩, ⟨475, 475, 1⟩,
    ⟨476, 476, 1⟩, ⟨477, 477, 1⟩, ⟨478, 478, 1⟩, ⟨479, 479, 1⟩, ⟨480, 480, 1⟩, ⟨481, 481, 1⟩,
    ⟨482, 482, 1⟩, ⟨483, 483, 1⟩, ⟨484, 484, 1⟩, ⟨485, 485, 1⟩, ⟨486, 486, 1⟩, ⟨490, 490, 1⟩,
    ⟨491, 491, 1⟩, ⟨492, 492, 1⟩, ⟨493, 493, 1⟩, ⟨494, 494, 1⟩, ⟨495, 495, 1⟩, ⟨496, 496, 1⟩,
    ⟨498, 498, 1⟩, ⟨499, 499, 1⟩, ⟨500, 500, 1⟩, ⟨501, 501, 1⟩, ⟨502, 502, 1⟩, ⟨509, 509, 1⟩,
    ⟨510, 510, 1⟩, ⟨513, 513, 1⟩, ⟨514, 514, 1⟩, ⟨516, 516, 1⟩, ⟨517, 517, 1⟩, ⟨518, 518, 1⟩,
    ⟨519, 519, 1⟩, ⟨520, 520, 1⟩, ⟨521, 521, 1⟩, ⟨522, 522, 1⟩, ⟨523, 523, 1⟩, ⟨524, 524, 1⟩,
    ⟨525, 525, 1⟩, ⟨526, 526, 1⟩, ⟨527, 527, 1⟩, ⟨528, 528, 1⟩, ⟨529, 529, 1⟩, ⟨530, 530, 1⟩,
    ⟨531, 531, 1⟩, ⟨532, 532, 1⟩, ⟨533, 533, 1⟩, ⟨534, 534, 1⟩, ⟨535, 535, 1⟩, ⟨536, 536, 1⟩,
    ⟨537, 537, 1⟩, ⟨538, 538, 1⟩, ⟨539, 539, 1⟩, ⟨540, 540, 1⟩, ⟨541, 541, 1⟩, ⟨542, 542, 1⟩,
    ⟨543, 543, 1⟩, ⟨560, 560, 1⟩, ⟨565, 565, 1⟩, ⟨572, 572, 1⟩, ⟨573, 573, 1⟩, ⟨574, 574, 1⟩,
    ⟨575, 575, 1⟩, ⟨576, 576, 1⟩, ⟨578, 578, 1⟩, ⟨563, 563, 1⟩, ⟨564, 564, 1⟩, ⟨579, 579, 1⟩,
    ⟨580, 580, 1⟩, ⟨581, 581, 1⟩, ⟨582, 582, 1⟩, ⟨583, 583, 1⟩, ⟨584, 584, 1⟩, ⟨585, 585, 1⟩, ⟨3, 2, 10⟩,
    ⟨4, 2, 10⟩, ⟨5, 1, 1⟩, ⟨6, 2, 10⟩, ⟨7, 2, 10⟩, ⟨9, 1, 1⟩, ⟨15, 1, 1⟩, ⟨39, 39, 1⟩, ⟨68, 2, 10⟩,
    ⟨91, 2, 10⟩, ⟨94, 1, 1⟩, ⟨95, 23, 1⟩, ⟨96, 96, 1⟩, ⟨97, 96, 1⟩, ⟨100, 100, 1⟩, ⟨101, 101, 1⟩,
    ⟨102, 102, 1⟩, ⟨104, 11, 1⟩, ⟨106, 106, 1⟩, ⟨108, 109, 1⟩, ⟨109, 109, 1⟩, ⟨110, 111, 1⟩, ⟨111, 111, 1⟩,
    ⟨112, 112, 1⟩, ⟨113, 113, 1⟩, ⟨114, 114, 1⟩, ⟨115, 115, 1⟩, ⟨116, 102, 1⟩, ⟨119, 119, 1⟩,
    ⟨198, 198, 1⟩, ⟨146, 146, 1⟩, ⟨152, 2, 10⟩, ⟨153, 2, 10⟩, ⟨154, 2, 10⟩, ⟨155, 1, 1⟩, ⟨156, 12, 10⟩,
    ⟨172, 2, 10⟩, ⟨178, 178, 1⟩, ⟨179, 179, 1⟩, ⟨180, 180, 1⟩, ⟨181, 181, 1⟩, ⟨182, 182, 1⟩, ⟨183, 183, 1⟩,
    ⟨184, 12, 10⟩, ⟨185, 185, 1⟩, ⟨186, 186, 1⟩, ⟨187, 187, 1⟩, ⟨188, 188, 1⟩, ⟨189, 189, 1⟩,
    ⟨190, 190, 1⟩, ⟨195, 112, 1⟩, ⟨196, 113, 1⟩, ⟨197, 114, 1⟩, ⟨208, 208, 1⟩, ⟨231, 231, 1⟩,
    ⟨232, 231, 1⟩, ⟨233, 233, 1⟩, ⟨241, 109, 1⟩, ⟨252, 252, 1⟩, ⟨590, 590, 1⟩, ⟨591, 591, 1⟩,
    ⟨592, 592, 1⟩, ⟨613, 613, 1⟩, ⟨614, 614, 1⟩, ⟨615, 615, 1⟩, ⟨616, 616, 1⟩, ⟨611, 611, 1⟩,
    ⟨612, 612, 1⟩, ⟨593, 593, 1⟩, ⟨594, 594, 1⟩, ⟨595, 595, 1⟩, ⟨596, 596, 1⟩, ⟨597, 597, 1⟩,
    ⟨598, 598, 1⟩, ⟨599, 599, 1⟩, ⟨600, 600, 1⟩, ⟨601, 601, 1⟩, ⟨602, 602, 1⟩, ⟨603, 603, 1⟩,
    ⟨604, 604, 1⟩, ⟨605, 605, 1⟩, ⟨622, 622, 1⟩, ⟨623, 623, 1⟩, ⟨624, 624, 1⟩, ⟨625, 625, 1⟩,
    ⟨626, 626, 1⟩, ⟨627, 627, 1⟩, ⟨628, 628, 1⟩, ⟨629, 629, 1⟩, ⟨630, 630, 1⟩, ⟨631, 631, 1⟩,
    ⟨632, 632, 1⟩, ⟨637, 637, 1⟩, ⟨638, 638, 1⟩, ⟨636, 636, 1⟩, ⟨639, 639, 1⟩, ⟨663, 663, 1⟩,
    ⟨640, 640, 1⟩, ⟨652, 652, 1⟩, ⟨646, 646, 1⟩, ⟨647, 647, 1⟩, ⟨127, 127, 1⟩, ⟨660, 660, 1⟩,
    ⟨661, 661, 1⟩, ⟨665, 665, 1⟩]

namespace DataTypesMessage

/-! ## The request -/

/-- A data type in the list. -/
def encodeType (dt : DataTypeDefinition) : WriteM Unit := do
  writeU16Be dt.dataType
  writeU16Be dt.convDataType
  writeU16Be dt.representation
  writeU16Be 0 -- reserved

/-- `encode`. -/
def encode (caps : Capabilities) : WriteM Unit := do
  writeU8 messageTypeDataTypes
  writeU16Le charsetUtf8
  writeU16Le charsetUtf8
  writeU8 (encodingMultiByte ||| encodingConvLength)
  writeBytesWithLength (some caps.compileCaps)
  writeBytesWithLength (some caps.runtimeCaps)
  dataTypes.forM encodeType
  writeU16Be 0 -- the end of the list

/-- `build_request`. -/
def buildRequest (caps : Capabilities) (largeSdu : Bool) : Except Error Bytes :=
  WriteM.freezeAsData largeSdu (encode caps)

/-- What is written for a data type. -/
def typeBytes (dt : DataTypeDefinition) : Bytes :=
  BigEndian.digits 2 dt.dataType.toNat ++ (BigEndian.digits 2 dt.convDataType.toNat ++
    (BigEndian.digits 2 dt.representation.toNat ++ [0, 0]))

/-- What is written for a list. -/
def listBytes (dts : List DataTypeDefinition) : Bytes := dts.flatMap typeBytes ++ [0, 0]

/-- The request. -/
def request (caps : Capabilities) : Bytes :=
  [messageTypeDataTypes] ++ ((BigEndian.digits 2 charsetUtf8.toNat).reverse ++
    ((BigEndian.digits 2 charsetUtf8.toNat).reverse ++ ([encodingMultiByte ||| encodingConvLength] ++
      ((ByteString.ofBytes caps.compileCaps).encode ++ ((ByteString.ofBytes caps.runtimeCaps).encode ++
        listBytes dataTypes)))))

lemma writes_encodeType (dt : DataTypeDefinition) : Writes (encodeType dt) (typeBytes dt) :=
  (writes_writeU16Be _).bind ((writes_writeU16Be _).bind ((writes_writeU16Be _).bind (writes_writeU16Be 0)))

lemma writes_writeU16Le (value : UInt16) :
    Writes (writeU16Le value) (BigEndian.digits 2 value.toNat).reverse := by
  have hwrites := (madeOf_writeU16Le value).writes
  rwa [List.flatten_singleton] at hwrites

lemma writes_encode (caps : Capabilities) : Writes (encode caps) (request caps) := by
  have htypes : Writes (dataTypes.forM encodeType) (dataTypes.flatMap typeBytes) :=
    Writes.forM fun dt _ => writes_encodeType dt
  refine (writes_writeU8 _).bind ((writes_writeU16Le _).bind ((writes_writeU16Le _).bind ?_))
  refine (writes_writeU8 _).bind ((writes_writeBytesWithLength _).bind ?_)
  exact (writes_writeBytesWithLength _).bind (htypes.bind (writes_writeU16Be 0))

/-- The request is always built. -/
lemma buildRequest_eq (caps : Capabilities) (largeSdu : Bool) :
    buildRequest caps largeSdu = .ok (dataRequest largeSdu (request caps)) :=
  WriteM.freezeAsData_eq largeSdu (writes_encode caps)

/-! ## The response -/

/-- A turn of the loop of `parse_body`. -/
def bodyTurn (_ : Unit) : ReadM (Unit ⊕ Unit) := do
  let dataType ← readU16Be
  if dataType = 0 then return .inr ()
  else
    let convDataType ← readU16Be
    (if convDataType ≠ 0 then skip 4 else pure ()) -- the representation, and a reserved number
    return .inl ()

/-- `parse_body`. -/
def parseBody : ReadM Unit := iterate .stuck bodyTurn ()

/-- `parse_message`. -/
def parseMessage : EStateM ConnectError ReadBuffer Unit := do
  let msgType ← ConnectError.lift readU8
  if msgType ≠ messageTypeDataTypes then throw (.invalidMessageType msgType)
  else ConnectError.lift parseBody

end DataTypesMessage

/-- The answer of a server for a data type. -/
inductive TypeAnswer where
  /-- the type is refused -/
  | refused (dataType : UInt16) (h : dataType ≠ 0)
  /-- it is converted, in a representation -/
  | converted (dataType convDataType : UInt16) (representation : Bytes) (h : dataType ≠ 0)
    (hconv : convDataType ≠ 0) (hlen : representation.length = 4)

namespace TypeAnswer

/-- The bytes of an answer. -/
def encode : TypeAnswer → Bytes
  | refused dataType _ => BigEndian.digits 2 dataType.toNat ++ [0, 0]
  | converted dataType convDataType representation _ _ _ =>
    BigEndian.digits 2 dataType.toNat ++ (BigEndian.digits 2 convDataType.toNat ++ representation)

/-- The bytes of a list of answers. -/
def encodeAll (answers : List TypeAnswer) : Bytes := answers.flatMap encode ++ [0, 0]

end TypeAnswer

namespace DataTypesMessage

lemma reads_u16Be (value : UInt16) : Reads readU16Be (BigEndian.digits 2 value.toNat) value := by
  have hread := reads_readU16Be (BigEndian.digits 2 value.toNat) (by simp)
  rwa [BigEndian.eval_digits _ _ value.toNat_lt, UInt16.ofNat_toNat] at hread

lemma encode_ne_nil (answer : TypeAnswer) : answer.encode ≠ [] := by
  have hlen (value : UInt16) : (BigEndian.digits 2 value.toNat).length = 2 := BigEndian.length_digits _ _
  cases answer with
  | refused dataType h => simp [TypeAnswer.encode]
  | converted dataType convDataType representation h hconv hrep =>
    refine List.ne_nil_of_length_pos ?_
    rw [TypeAnswer.encode, List.length_append, hlen]
    omega

/-- A turn reads an answer. -/
lemma reads_bodyTurn (answer : TypeAnswer) : Reads (bodyTurn ()) answer.encode (.inl ()) := by
  cases answer with
  | refused dataType h =>
    refine (reads_u16Be dataType).bind ?_
    rw [if_neg h]
    refine (reads_u16Be 0).bind_nil ?_
    rw [if_neg (not_not.mpr rfl)]
    exact Reads.pure _
  | converted dataType convDataType representation h hconv hlen =>
    refine (reads_u16Be dataType).bind ?_
    rw [if_neg h]
    refine (reads_u16Be convDataType).bind ?_
    rw [if_pos hconv, ← hlen]
    exact (reads_skip representation).bind_nil (Reads.pure _)

/-- The last turn reads the end of the list. -/
lemma reads_bodyTurn_last : Reads (bodyTurn ()) [0, 0] (.inr ()) :=
  (reads_u16Be 0).bind_nil (Reads.pure _)

/-- The loop reads a list of answers. -/
lemma readsLoop_bodyTurn (answers : List TypeAnswer) :
    ReadsLoop .stuck bodyTurn () (TypeAnswer.encodeAll answers) () := by
  induction answers with
  | nil => exact ReadsLoop.done reads_bodyTurn_last
  | cons answer answers ih =>
    rw [TypeAnswer.encodeAll, List.flatMap_cons, List.append_assoc]
    exact ReadsLoop.more (reads_bodyTurn answer) (encode_ne_nil answer) ih

/-- Bytes that are read stand there. -/
lemma rest_of_readBytesVec {n : ℕ} {c c' : ReadBuffer} {bytes : Bytes} (h : readBytesVec n c = .ok bytes c') :
    c.rest = bytes ++ c'.rest ∧ bytes.length = n := by
  rw [readBytesVec_eq] at h
  split_ifs at h with hlt
  cases h
  have hlen : (c.rest.take n).length = n := by
    rw [List.length_take]
    omega
  have hsplit : c.rest = c.rest.take n ++ c.rest.drop n := (List.take_append_drop n c.rest).symm
  have hrest := rest_advance_of_append hsplit
  rw [hlen] at hrest
  exact ⟨hsplit.trans (by rw [hrest]), hlen⟩

/-- A number that is read stands there. -/
lemma rest_of_readU16Be {c c' : ReadBuffer} {value : UInt16} (h : readU16Be c = .ok value c') :
    c.rest = BigEndian.digits 2 value.toNat ++ c'.rest := by
  obtain ⟨bytes, c₁, hbytes, hpure⟩ := exists_of_bind_ok h
  obtain ⟨hrest, hlen⟩ := rest_of_readBytesVec hbytes
  cases hpure
  have hlt : BigEndian.eval bytes < 2 ^ 16 := by
    have hbound := BigEndian.eval_lt bytes
    rwa [hlen] at hbound
  have hdigits := BigEndian.digits_eval bytes
  rw [hlen] at hdigits
  rw [UInt16.toNat_ofNat', Nat.mod_eq_of_lt hlt, hdigits]
  exact hrest

/-- What is skipped stands there. -/
lemma rest_of_skip {n : ℕ} {c c' : ReadBuffer} {u : Unit} (h : skip n c = .ok u c') :
    ∃ bytes, c.rest = bytes ++ c'.rest ∧ bytes.length = n := by
  by_cases hlt : c.rest.length < n
  · rw [skip, bind_error (ensureRemaining_of_lt hlt)] at h
    cases h
  · have hlen : (c.rest.take n).length = n := by
      rw [List.length_take]
      omega
    have hsplit : c.rest = c.rest.take n ++ c.rest.drop n := (List.take_append_drop n c.rest).symm
    have hread := reads_skip (c.rest.take n) c _ hsplit
    rw [hlen, h] at hread
    cases hread
    have hrest := rest_advance_of_append hsplit
    rw [hlen] at hrest
    exact ⟨c.rest.take n, hsplit.trans (by rw [hrest]), hlen⟩

/-- A turn that goes on has read an answer. -/
lemma answer_of_bodyTurn {c c' : ReadBuffer} (h : bodyTurn () c = .ok (.inl ()) c') :
    ∃ answer : TypeAnswer, c.rest = answer.encode ++ c'.rest := by
  obtain ⟨dataType, c₁, htype, hrun⟩ := exists_of_bind_ok h
  have hrest := rest_of_readU16Be htype
  by_cases hzero : dataType = 0
  · rw [if_pos hzero] at hrun
    cases hrun
  · rw [if_neg hzero] at hrun
    obtain ⟨convDataType, c₂, hconv, hrun⟩ := exists_of_bind_ok hrun
    have hrest' := rest_of_readU16Be hconv
    obtain ⟨u, c₃, hskip, hpure⟩ := exists_of_bind_ok hrun
    cases hpure
    by_cases hconvzero : convDataType = 0
    · rw [if_neg (not_not.mpr hconvzero)] at hskip
      cases hskip
      refine ⟨.refused dataType hzero, ?_⟩
      rw [hrest, hrest', hconvzero, TypeAnswer.encode, List.append_assoc]
      rfl
    · rw [if_pos hconvzero] at hskip
      obtain ⟨representation, hrest'', hlen⟩ := rest_of_skip hskip
      refine ⟨.converted dataType convDataType representation hzero hconvzero hlen, ?_⟩
      rw [hrest, hrest', hrest'', TypeAnswer.encode, List.append_assoc, List.append_assoc]

/-- The last turn has read the end of the list. -/
lemma rest_of_bodyTurn {c c' : ReadBuffer} (h : bodyTurn () c = .ok (.inr ()) c') : c.rest = [0, 0] ++ c'.rest := by
  obtain ⟨dataType, c₁, htype, hrun⟩ := exists_of_bind_ok h
  by_cases hzero : dataType = 0
  · rw [if_pos hzero] at hrun
    cases hrun
    rw [rest_of_readU16Be htype, hzero]
    rfl
  · rw [if_neg hzero] at hrun
    obtain ⟨convDataType, c₂, -, hrun⟩ := exists_of_bind_ok hrun
    obtain ⟨u, c₃, -, hpure⟩ := exists_of_bind_ok hrun
    cases hpure

/-- A loop that ends has read a list of answers. -/
lemma answers_of_loop (n : ℕ) {c c' : ReadBuffer} (h : loop .stuck bodyTurn n () c = .ok () c') :
    ∃ answers, c.rest = TypeAnswer.encodeAll answers ++ c'.rest := by
  induction n generalizing c with
  | zero => cases h
  | succ n ih =>
    obtain ⟨next, c₁, hturn, hrun⟩ := exists_of_bind_ok h
    cases next with
    | inl u =>
      obtain ⟨answer, hrest⟩ := answer_of_bodyTurn hturn
      obtain ⟨answers, hrest'⟩ := ih hrun
      refine ⟨answer :: answers, ?_⟩
      rw [hrest, hrest', TypeAnswer.encodeAll, TypeAnswer.encodeAll, List.flatMap_cons]
      simp only [List.append_assoc]
    | inr u =>
      cases hrun
      exact ⟨[], rest_of_bodyTurn hturn⟩

lemma reads_parseBody (answers : List TypeAnswer) : Reads parseBody (TypeAnswer.encodeAll answers) () :=
  (readsLoop_bodyTurn answers).reads

/-- A reader whose errors are errors of `Error`. -/
lemma reads_lift {α : Type} {m : ReadM α} {b : Bytes} {a : α} (h : Reads m b a) :
    Reads (ConnectError.lift m) b a := by
  intro c r hc
  rw [ConnectError.lift, h c r hc]

/-- A message with answers is read. -/
lemma reads_parseMessage (answers : List TypeAnswer) :
    Reads parseMessage (messageTypeDataTypes :: TypeAnswer.encodeAll answers) () := by
  refine (reads_lift (reads_readU8 messageTypeDataTypes)).cons ?_
  rw [if_neg (not_not.mpr rfl)]
  exact reads_lift (reads_parseBody answers)

/-- The client's entry as an answer. -/
def answerOf (dt : DataTypeDefinition) (h : dt.dataType ≠ 0 ∧ dt.convDataType ≠ 0) : TypeAnswer :=
  .converted dt.dataType dt.convDataType (BigEndian.digits 2 dt.representation.toNat ++ [0, 0]) h.1 h.2 (by simp)

/-- A list without zeros is a list of answers. -/
lemma exists_answers (dts : List DataTypeDefinition)
    (h : ∀ dt ∈ dts, dt.dataType ≠ 0 ∧ dt.convDataType ≠ 0) :
    ∃ answers, listBytes dts = TypeAnswer.encodeAll answers := by
  induction dts with
  | nil => exact ⟨[], rfl⟩
  | cons dt dts ih =>
    obtain ⟨answers, hanswers⟩ := ih fun dt' hdt' => h dt' (List.mem_cons_of_mem dt hdt')
    refine ⟨answerOf dt (h dt List.mem_cons_self) :: answers, ?_⟩
    rw [listBytes, TypeAnswer.encodeAll] at hanswers ⊢
    rw [List.flatMap_cons, List.flatMap_cons, List.append_assoc, hanswers, List.append_assoc]
    rfl

/-- The client's list is read by its own parser. -/
lemma reads_dataTypes : Reads parseBody (listBytes dataTypes) () := by
  obtain ⟨answers, hanswers⟩ := exists_answers dataTypes (by decide +kernel)
  rw [hanswers]
  exact reads_parseBody answers

end DataTypesMessage

end OracleRs
