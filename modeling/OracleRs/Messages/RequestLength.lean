import OracleRs.Messages.ExecuteSize
import OracleRs.Messages.Requests

set_option relaxedAutoImplicit false
set_option autoImplicit false

/-!
# The lengths of requests

Every builder of requests writes the length of its packet into a header of its own, narrowed to two
or four bytes; a CONNECT packet also declares the length of the connect data. The lengths are right
as long as they fit, which nothing checks.

## Main definitions

* `OracleRs.FetchMessage.size`, `OracleRs.LobOpMessage.size` — the sizes of the messages.
* `OracleRs.Request` — a request of one of the builders.
* `OracleRs.Request.LengthsAgree` — all lengths in the packets of a request are right.
* `OracleRs.Request.Fits` — the lengths fit the fields they are written to.

## Main results

* `OracleRs.Request.lengthsAgree_iff` — the lengths are right if and only if they fit.
-/

namespace OracleRs

open Cursor
open Sink (Writes Yields Grows)

/-! ## Sizes -/

/-- The size of a fetch message. -/
def FetchMessage.size (caps : Capabilities) (msg : FetchMessage) : ℕ :=
  functionHeaderSize caps + ubSize msg.cursorId.toNat + ubSize msg.numRows.toNat +
    match msg.orientation with
    | some orientation => ubSize orientation.code.toNat + ubSize (msg.offset.toUInt64.toNat % 2 ^ 32)
    | none => 0

namespace LobOpMessage

variable (caps : Capabilities) (msg : LobOpMessage)

/-- The size of the fixed fields of a LOB operation. -/
def fieldsSize : ℕ :=
  countedSize (!msg.locatorBytes.isEmpty) (UInt32.ofNat msg.locatorBytes.length) +
    ubSize msg.destLength.toNat + ubSize msg.operation.toNat + ubSize msg.sourceOffset.toNat +
    ubSize msg.destOffset.toNat + 15

/-- The size of a LOB operation. -/
def size : ℕ :=
  functionHeaderSize caps + msg.fieldsSize + msg.locatorBytes.length +
    (if msg.operation = LobOp.createTemp then 3 else 0) +
    (match msg.writeData with
      | some data => 1 + bytesWithLengthSize data.length
      | none => 0) +
    if msg.sendAmount then ubSize msg.amount.toNat else 0

end LobOpMessage

lemma FetchMessage.grows_writeMessage (caps : Capabilities) (msg : FetchMessage) :
    Grows (msg.writeMessage caps) (msg.size caps) := by
  have horientation : Grows msg.writeOrientation
      (match msg.orientation with
        | some orientation =>
          ubSize orientation.code.toNat + ubSize (msg.offset.toUInt64.toNat % 2 ^ 32)
        | none => 0) := by
    unfold writeOrientation
    cases msg.orientation with
    | none => exact Grows.pure ()
    | some orientation =>
      have hoffset := grows_writeUb4 msg.offset.toUInt64.toUInt32
      rw [UInt64.toNat_toUInt32] at hoffset
      exact (grows_writeUb4 _).bind fun _ => hoffset
  refine Grows.congr ((grows_writeFunctionHeader caps .fetch msg.sequenceNumber).bind fun _ =>
    (grows_writeUb4 msg.cursorId.toUInt32).bind fun _ => (grows_writeUb4 msg.numRows).bind fun _ =>
    horientation) ?_
  rw [size, UInt16.toNat_toUInt32]
  omega

namespace LobOpMessage

variable (caps : Capabilities) (msg : LobOpMessage)

lemma grows_writeFields : Grows msg.writeFields msg.fieldsSize := by
  refine Grows.congr ((grows_writeCounted _ _).bind fun _ => (grows_writeU8 0).bind fun _ =>
    (grows_writeUb4 msg.destLength).bind fun _ => grows_writeUb4_zero.bind fun _ =>
    grows_writeUb4_zero.bind fun _ => (grows_writeU8 _).bind fun _ => (grows_writeU8 0).bind fun _ =>
    (grows_writeU8 _).bind fun _ => (grows_writeUb4 msg.operation).bind fun _ =>
    (grows_writeU8 0).bind fun _ => (grows_writeU8 0).bind fun _ =>
    (grows_writeUb8 msg.sourceOffset).bind fun _ => (grows_writeUb8 msg.destOffset).bind fun _ =>
    (grows_writeU8 _).bind fun _ => (grows_writeU16Be 0).bind fun _ =>
    (grows_writeU16Be 0).bind fun _ => grows_writeU16Be 0) ?_
  rw [fieldsSize]
  omega

/-- A LOB operation is written in as many bytes. -/
lemma grows_writeMessage : Grows (msg.writeMessage caps) (msg.size caps) := by
  have hdata : Grows msg.writeLobData
      (match msg.writeData with
        | some data => 1 + bytesWithLengthSize data.length
        | none => 0) := by
    unfold writeLobData
    cases msg.writeData with
    | none => exact Grows.pure ()
    | some data => exact (grows_writeU8 _).bind fun _ => grows_writeBytesWithLength data
  have hcharset := (grows_writeUb4 charsetUtf8.toUInt32).ite
    (c := msg.operation = LobOp.createTemp) (Grows.pure ())
  have hamount := (grows_writeUb8 msg.amount).ite (c := msg.sendAmount) (Grows.pure ())
  refine Grows.congr ((grows_writeFunctionHeader caps .lobOp msg.sequenceNumber).bind fun _ =>
    msg.grows_writeFields.bind fun _ => (grows_writeBytes msg.locatorBytes).bind fun _ =>
    hcharset.bind fun _ => hdata.bind fun _ => hamount) ?_
  have hutf8 : ubSize charsetUtf8.toUInt32.toNat = 3 := rfl
  rw [size, hutf8]
  omega

end LobOpMessage

/-! ## The packets of the builders -/

/-- What a writer leaves in a new buffer is as long as what it appends. -/
lemma length_of_freeze {m : WriteM Unit} {payload : Bytes} {n : ℕ} (h : m.freeze = .ok payload)
    (hm : Grows m n) : payload.length = n :=
  WriteM.of_freeze h hm

/-- An exact writer leaves in a new buffer what it appends. -/
lemma freeze_of_writes {m : WriteM Unit} {b : Bytes} (h : Writes m b) : m.freeze = .ok b := by
  rw [WriteM.freeze, h Sink.empty (Sink.hasRoom_empty _)]
  rfl

/-- The header of a LOB operation is that of the other builders: the sum of the narrowed numbers is
the narrowed sum. -/
lemma LobOpMessage.writes_writeHeader (largeSdu : Bool) (payloadLen : ℕ) :
    Writes (writeHeader largeSdu payloadLen)
      (packetHeader largeSdu .data (packetHeaderSize + payloadLen)) := by
  have hrest := (writes_writeU8 PacketType.data.code).bind
    ((writes_writeU8 0).bind (writes_writeU16Be 0))
  cases largeSdu with
  | true =>
    have hsum : UInt32.ofNat payloadLen + UInt32.ofNat packetHeaderSize =
        UInt32.ofNat (packetHeaderSize + payloadLen) := by
      rw [Nat.add_comm, UInt32.ofNat_add]
    rw [writeHeader, if_pos rfl, hsum]
    exact (writes_writeU32Be _).bind hrest
  | false =>
    have hsum : UInt16.ofNat payloadLen + UInt16.ofNat packetHeaderSize =
        UInt16.ofNat (packetHeaderSize + payloadLen) := by
      rw [Nat.add_comm, UInt16.ofNat_add]
    rw [writeHeader, if_neg Bool.false_ne_true, hsum]
    exact ((writes_writeU16Be _).bind (writes_writeU16Be 0)).bind hrest

/-- The packet of a LOB operation: a header, the data flags and the message. -/
lemma LobOpMessage.exists_message_of_build {caps : Capabilities} {msg : LobOpMessage}
    {largeSdu : Bool} {packet : Bytes} (h : msg.buildRequest caps largeSdu = .ok packet) :
    ∃ message, msg.buildMessageOnly caps = .ok message ∧
      packet = packetHeader largeSdu .data (packetHeaderSize + (2 + message.length)) ++
        (BigEndian.digits 2 dataFlagEndOfRequest.toNat ++ message) := by
  unfold buildRequest at h
  cases hmessage : msg.buildMessageOnly caps with
  | error e => rw [hmessage] at h; cases h
  | ok message =>
    have hpacket := freeze_of_writes ((writes_writeHeader largeSdu (2 + message.length)).bind
      ((writes_writeU16Be dataFlagEndOfRequest).bind (writes_writeBytes message)))
    rw [hmessage] at h
    exact ⟨message, rfl, (Except.ok.inj (h.symm.trans hpacket))⟩

/-- The packet of a fetch: a header, the data flags and the message. -/
lemma FetchMessage.exists_message_of_build {caps : Capabilities} {msg : FetchMessage}
    {largeSdu : Bool} {packet : Bytes} (h : msg.buildRequestWithSdu caps largeSdu = .ok packet) :
    ∃ message, message.length = msg.size caps ∧
      packet = packetHeader largeSdu .data (packetHeaderSize + (2 + message.length)) ++
        (BigEndian.digits 2 dataFlagEndOfRequest.toNat ++ message) := by
  unfold buildRequestWithSdu at h
  cases hmessage : (msg.writeMessage caps).freeze with
  | error e => rw [hmessage] at h; cases h
  | ok message =>
    rw [hmessage] at h
    cases h
    exact ⟨message, length_of_freeze hmessage (msg.grows_writeMessage caps), by rw [Nat.add_assoc]⟩

/-- A DATA packet declares its length if and only if the length fits. -/
lemma declaresLength_data_iff (largeSdu : Bool) {flags : Bytes} (hflags : flags.length = 2)
    (message : Bytes) :
    DeclaresLength largeSdu
        (packetHeader largeSdu .data (packetHeaderSize + (2 + message.length)) ++
          (flags ++ message)) ↔
      10 + message.length < lengthBound largeSdu := by
  rw [declaresLength_packetHeader_iff (by simp [hflags]), packetHeaderSize, ← Nat.add_assoc]

/-! ## Connect packets -/

namespace ConnectMessage

/-- The fields in front of the length of the connect data. -/
def fieldsBefore (msg : ConnectMessage) : Bytes :=
  BigEndian.digits 2 msg.versionDesired.toNat ++ (BigEndian.digits 2 msg.versionMinimum.toNat ++
    (BigEndian.digits 2 msg.serviceOptions.toNat ++
    (BigEndian.digits 2 (min msg.sdu 65535).toUInt16.toNat ++
    (BigEndian.digits 2 (min msg.tdu 65535).toUInt16.toNat ++
    (BigEndian.digits 2 msg.protocolCharacteristics.toNat ++ (BigEndian.digits 2 0 ++
    BigEndian.digits 2 1))))))

/-- The fields behind the length of the connect data. -/
def fieldsBehind (msg : ConnectMessage) : Bytes :=
  BigEndian.digits 2 74 ++ (BigEndian.digits 4 0 ++ ([msg.nsiFlags] ++ ([msg.nsiFlags] ++
    (List.replicate 24 0 ++ (BigEndian.digits 4 msg.sdu.toNat ++ (BigEndian.digits 4 msg.tdu.toNat ++
    (BigEndian.digits 4 msg.connectFlags1.toNat ++ BigEndian.digits 4 msg.connectFlags2.toNat)))))))

/-- The fields of a CONNECT packet, with the length of the connect data. -/
def fields (msg : ConnectMessage) : Bytes :=
  msg.fieldsBefore ++
    (BigEndian.digits 2 (UInt16.ofNat msg.connectDataBytes.length).toNat ++ msg.fieldsBehind)

variable (msg : ConnectMessage)

lemma length_fieldsBefore : msg.fieldsBefore.length = 16 := by simp [fieldsBefore]

lemma length_fields : msg.fields.length = 66 := by
  simp [fields, length_fieldsBefore, fieldsBehind]

lemma writes_writeFields :
    Writes msg.writeFields (List.replicate packetHeaderSize 0 ++ msg.fields) := by
  have hbehind := (writes_writeU16Be 74).bind ((writes_writeU32Be 0).bind
    ((writes_writeU8 msg.nsiFlags).bind ((writes_writeU8 msg.nsiFlags).bind
    ((writes_writeZeros 24).bind ((writes_writeU32Be msg.sdu).bind ((writes_writeU32Be msg.tdu).bind
    ((writes_writeU32Be msg.connectFlags1).bind (writes_writeU32Be msg.connectFlags2))))))))
  have hall := (writes_writeZeros packetHeaderSize).bind ((writes_writeU16Be msg.versionDesired).bind
    ((writes_writeU16Be msg.versionMinimum).bind ((writes_writeU16Be msg.serviceOptions).bind
    ((writes_writeU16Be (min msg.sdu 65535).toUInt16).bind
    ((writes_writeU16Be (min msg.tdu 65535).toUInt16).bind
    ((writes_writeU16Be msg.protocolCharacteristics).bind ((writes_writeU16Be 0).bind
    ((writes_writeU16Be 1).bind
    ((writes_writeU16Be (UInt16.ofNat msg.connectDataBytes.length)).bind hbehind)))))))))
  simp only [fields, fieldsBefore, fieldsBehind, List.append_assoc]
  exact hall

/-- The length of the connect data that a CONNECT packet declares. -/
def declaredConnectData (packet : Bytes) : ℕ := BigEndian.eval ((packet.drop 24).take 2)

/-- What a packet with the fields declares as the length of the connect data. -/
lemma declaredConnectData_eq {header rest : Bytes} (hheader : header.length = packetHeaderSize) :
    declaredConnectData (header ++ (msg.fields ++ rest)) =
      msg.connectDataBytes.length % 2 ^ 16 := by
  have hbefore : (header ++ msg.fieldsBefore).length = 24 := by
    rw [List.length_append, hheader, length_fieldsBefore, packetHeaderSize]
  have hlength : (UInt16.ofNat msg.connectDataBytes.length).toNat =
      msg.connectDataBytes.length % 2 ^ 16 := UInt16.toNat_ofNat'
  have hsplit : header ++ (msg.fields ++ rest) = (header ++ msg.fieldsBefore) ++
      (BigEndian.digits 2 (UInt16.ofNat msg.connectDataBytes.length).toNat ++
        (msg.fieldsBehind ++ rest)) := by
    simp only [fields, List.append_assoc]
  rw [declaredConnectData, hsplit, List.drop_left' hbefore, List.take_left' (by simp),
    BigEndian.eval_digits _ _ (UInt16.toNat_lt _), hlength]

/-- A buffer of zeros and a body, behind the header of its packet. -/
lemma freezeWithHeader_of_writes (packetType : PacketType) {m : WriteM Unit} {body : Bytes}
    (h : Writes m (List.replicate packetHeaderSize 0 ++ body)) :
    m.freezeWithHeader packetType =
      .ok (packetHeader false packetType (packetHeaderSize + body.length) ++ body) := by
  have hlength : (List.replicate packetHeaderSize (0 : UInt8) ++ body).length =
      packetHeaderSize + body.length := by simp
  have hheader := freeze_of_writes (writes_write false packetType (packetHeaderSize + body.length))
  rw [WriteM.freezeWithHeader, freeze_of_writes h]
  simp only [bind, Except.bind, hlength, hheader]
  rw [List.drop_left' List.length_replicate]
  rfl

/-- The packets that are built: the connect data is in the CONNECT packet or in a DATA packet. -/
lemma buildWithContinuation_eq :
    msg.buildWithContinuation = .ok (if msg.needsSplit then
      (packetHeader false .connect (packetHeaderSize + 66) ++ msg.fields,
        some (packetHeader false .data (packetHeaderSize + (2 + msg.connectDataBytes.length)) ++
          (BigEndian.digits 2 0 ++ msg.connectDataBytes)))
      else
        (packetHeader false .connect (packetHeaderSize + (66 + msg.connectDataBytes.length)) ++
          (msg.fields ++ msg.connectDataBytes), none)) := by
  have hconnect := freezeWithHeader_of_writes .connect msg.writes_writeFields
  rw [length_fields] at hconnect
  unfold buildWithContinuation
  cases hsplit : msg.needsSplit with
  | true =>
    have hdata := freezeWithHeader_of_writes .data
      ((writes_writeZeros packetHeaderSize).bind ((writes_writeU16Be 0).bind
        (writes_writeBytes msg.connectDataBytes)))
    rw [List.length_append, BigEndian.length_digits] at hdata
    rw [if_neg (by simp), hconnect, buildData, hdata]
    rfl
  | false =>
    have hboth := msg.writes_writeFields.bind (writes_writeBytes msg.connectDataBytes)
    rw [List.append_assoc] at hboth
    have hbuild := freezeWithHeader_of_writes .connect hboth
    rw [List.length_append, length_fields] at hbuild
    have heq : msg.build = WriteM.freezeWithHeader .connect (do
        msg.writeFields
        writeBytes msg.connectDataBytes) := by
      simp [build, hsplit]
    rw [if_pos (by simp), heq, hbuild]
    rfl

end ConnectMessage

/-! ## All requests -/

/-- A request of one of the builders, with what the builder is given. -/
inductive Request where
  /-- an execute request -/
  | execute (serializers : Serializers) (caps : Capabilities) (msg : ExecuteMessage)
    (largeSdu : Bool)
  /-- a fetch -/
  | fetch (caps : Capabilities) (msg : FetchMessage) (largeSdu : Bool)
  /-- a LOB operation -/
  | lobOp (caps : Capabilities) (msg : LobOpMessage) (largeSdu : Bool)
  /-- a connect request with its continuation -/
  | connect (msg : ConnectMessage)

namespace Request

/-- The packets that the builder returns. -/
def build : Request → Except Error (List Bytes)
  | execute serializers caps msg largeSdu =>
    (msg.buildRequestWithSdu serializers caps largeSdu).map fun packet => [packet]
  | fetch caps msg largeSdu => (msg.buildRequestWithSdu caps largeSdu).map fun packet => [packet]
  | lobOp caps msg largeSdu => (msg.buildRequest caps largeSdu).map fun packet => [packet]
  | connect msg => msg.buildWithContinuation.map fun packets => packets.1 :: packets.2.toList

/-- The form of the headers. -/
def largeSdu : Request → Bool
  | execute _ _ _ largeSdu => largeSdu
  | fetch _ _ largeSdu => largeSdu
  | lobOp _ _ largeSdu => largeSdu
  | connect _ => false

/-- A CONNECT packet declares the number of bytes of connect data in it and its continuation. -/
def DeclaresConnectData : Request → List Bytes → Prop
  | connect _, packet :: continuation =>
    ConnectMessage.declaredConnectData packet =
      (packet.drop 74 ++ continuation.flatMap (·.drop 10)).length
  | _, _ => True

/-- Every packet declares its length, and a CONNECT packet that of the connect data. -/
def LengthsAgree (r : Request) (packets : List Bytes) : Prop :=
  (∀ packet ∈ packets, DeclaresLength r.largeSdu packet) ∧ r.DeclaresConnectData packets

/-- The lengths fit the fields they are written to: header, data flags and message, or connect data,
together have fewer bytes than the length field can count. -/
def Fits : Request → Prop
  | execute serializers caps msg largeSdu => 10 + msg.size serializers caps < lengthBound largeSdu
  | fetch _ _ _ => True
  | lobOp caps msg largeSdu => 10 + msg.size caps < lengthBound largeSdu
  | connect msg => 10 + msg.connectDataBytes.length < 2 ^ 16

end Request

lemma ubSize_le (n : ℕ) : ubSize n ≤ 9 := by
  have := ubWidth_le_eight n
  unfold ubSize
  omega

/-- Fetches are small. -/
lemma FetchMessage.size_le (caps : Capabilities) (msg : FetchMessage) : msg.size caps ≤ 40 := by
  have hheader : functionHeaderSize caps ≤ 4 := by
    unfold functionHeaderSize
    split_ifs <;> omega
  have hcursor := ubSize_le msg.cursorId.toNat
  have hrows := ubSize_le msg.numRows.toNat
  unfold size
  cases msg.orientation with
  | none => dsimp only; omega
  | some orientation =>
    have hcode := ubSize_le orientation.code.toNat
    have hoffset := ubSize_le (msg.offset.toUInt64.toNat % 2 ^ 32)
    dsimp only
    omega

namespace ConnectMessage

/-- What a request with a continuation declares. -/
lemma lengthsAgree_of_split (msg : ConnectMessage) :
    (Request.connect msg).LengthsAgree
        [packetHeader false .connect (packetHeaderSize + 66) ++ msg.fields,
          packetHeader false .data (packetHeaderSize + (2 + msg.connectDataBytes.length)) ++
            (BigEndian.digits 2 0 ++ msg.connectDataBytes)] ↔
      10 + msg.connectDataBytes.length < 2 ^ 16 := by
  have hconnect : DeclaresLength false
      (packetHeader false .connect (packetHeaderSize + 66) ++ msg.fields) :=
    (declaresLength_packetHeader_iff (by simp [length_fields])).mpr (by decide)
  have hdata := declaresLength_data_iff false (BigEndian.length_digits 2 0) msg.connectDataBytes
  have hdeclared : declaredConnectData
      (packetHeader false .connect (packetHeaderSize + 66) ++ (msg.fields ++ [])) = _ :=
    msg.declaredConnectData_eq (length_packetHeader false .connect (packetHeaderSize + 66))
  have hnothing : (packetHeader false .connect (packetHeaderSize + 66) ++ msg.fields).drop 74 =
      [] := by
    rw [List.drop_eq_nil_iff]
    simp [length_fields, packetHeaderSize]
  have hsent : (packetHeader false .data (packetHeaderSize + (2 + msg.connectDataBytes.length)) ++
      (BigEndian.digits 2 0 ++ msg.connectDataBytes)).drop 10 = msg.connectDataBytes := by
    rw [← List.append_assoc]
    exact List.drop_left' (by simp [packetHeaderSize])
  have hbound : lengthBound false = 2 ^ 16 := rfl
  rw [List.append_nil] at hdeclared
  rw [hbound] at hdata
  simp only [Request.LengthsAgree, Request.largeSdu, Request.DeclaresConnectData,
    List.forall_mem_cons, List.not_mem_nil, false_imp_iff, implies_true, hconnect, hdata, hdeclared,
    hnothing, List.flatMap_cons, List.flatMap_nil, hsent, List.append_nil, List.nil_append, true_and,
    and_true]
  omega

/-- What a request without a continuation declares. -/
lemma lengthsAgree_of_whole (msg : ConnectMessage) (h : msg.connectDataBytes.length ≤ maxConnectData) :
    (Request.connect msg).LengthsAgree
      [packetHeader false .connect (packetHeaderSize + (66 + msg.connectDataBytes.length)) ++
        (msg.fields ++ msg.connectDataBytes)] := by
  rw [maxConnectData] at h
  have hheader := length_packetHeader false .connect
    (packetHeaderSize + (66 + msg.connectDataBytes.length))
  have hconnect : DeclaresLength false
      (packetHeader false .connect (packetHeaderSize + (66 + msg.connectDataBytes.length)) ++
        (msg.fields ++ msg.connectDataBytes)) := by
    refine (declaresLength_packetHeader_iff (by simp [length_fields])).mpr ?_
    rw [packetHeaderSize, lengthBound, if_neg Bool.false_ne_true]
    omega
  have hsent : (packetHeader false .connect (packetHeaderSize + (66 + msg.connectDataBytes.length)) ++
      (msg.fields ++ msg.connectDataBytes)).drop 74 = msg.connectDataBytes := by
    rw [← List.append_assoc]
    exact List.drop_left' (by simp [length_fields, packetHeaderSize])
  refine ⟨List.forall_mem_singleton.mpr hconnect, ?_⟩
  rw [Request.DeclaresConnectData, msg.declaredConnectData_eq hheader, hsent, List.flatMap_nil,
    List.append_nil]
  omega

/-- The lengths in a connect request are right if and only if the connect data fits. -/
lemma lengthsAgree_iff_fits (msg : ConnectMessage) {packets : List Bytes}
    (h : (Request.connect msg).build = .ok packets) :
    (Request.connect msg).LengthsAgree packets ↔ (Request.connect msg).Fits := by
  simp only [Request.build, buildWithContinuation_eq, Except.map, Except.ok.injEq] at h
  subst h
  cases hsplit : msg.needsSplit with
  | true => exact msg.lengthsAgree_of_split
  | false =>
    have hle : msg.connectDataBytes.length ≤ maxConnectData := by
      simpa [needsSplit] using hsplit
    refine iff_of_true (msg.lengthsAgree_of_whole hle) ?_
    rw [maxConnectData] at hle
    show 10 + msg.connectDataBytes.length < 2 ^ 16
    omega

end ConnectMessage

/-- What `Except.map` makes of a packet. -/
lemma exists_of_map_single {r : Except Error Bytes} {packets : List Bytes}
    (h : (r.map fun packet => [packet]) = .ok packets) : ∃ packet, r = .ok packet ∧ packets = [packet] := by
  cases r with
  | error e => cases h
  | ok packet =>
    cases h
    exact ⟨packet, rfl, rfl⟩

lemma length_data_packet (largeSdu : Bool) (flags : UInt16) (message : Bytes) (n : ℕ) :
    (packetHeader largeSdu .data n ++ (BigEndian.digits 2 flags.toNat ++ message)).length =
      10 + message.length := by
  simp only [List.length_append, length_packetHeader, BigEndian.length_digits, packetHeaderSize]
  omega

/-- For every request that its builder accepts, the lengths in its packets are right if and only if
they fit. -/
theorem Request.lengthsAgree_iff (r : Request) (packets : List Bytes) (h : r.build = .ok packets) :
    r.LengthsAgree packets ↔ r.Fits := by
  have hflags : (BigEndian.digits 2 dataFlagEndOfRequest.toNat).length = 2 :=
    BigEndian.length_digits _ _
  have hsingle : ∀ {P : Prop} {Q : Bytes → Prop} {packet : Bytes}, P →
      ((∀ p ∈ [packet], Q p) ∧ P ↔ Q packet) := by
    intro P Q packet hP
    rw [and_iff_left hP, List.forall_mem_singleton]
  cases r with
  | execute serializers caps msg largeSdu =>
    obtain ⟨packet, hpacket, rfl⟩ := exists_of_map_single h
    obtain ⟨message, hsize, rfl⟩ := msg.exists_message_of_build serializers caps hpacket
      (msg.grows_writeMessage serializers caps)
    refine (hsingle trivial).trans ?_
    refine (declaresLength_data_iff largeSdu hflags message).trans ?_
    rw [hsize]
    rfl
  | fetch caps msg largeSdu =>
    obtain ⟨packet, hpacket, rfl⟩ := exists_of_map_single h
    obtain ⟨message, hsize, rfl⟩ := FetchMessage.exists_message_of_build hpacket
    have hle := msg.size_le caps
    have hbound : 2 ^ 16 ≤ lengthBound largeSdu := by cases largeSdu <;> decide
    refine (hsingle trivial).trans ?_
    refine (declaresLength_data_iff largeSdu hflags message).trans (iff_of_true ?_ trivial)
    omega
  | lobOp caps msg largeSdu =>
    obtain ⟨packet, hpacket, rfl⟩ := exists_of_map_single h
    obtain ⟨message, hmessage, rfl⟩ := LobOpMessage.exists_message_of_build hpacket
    have hsize := length_of_freeze hmessage (msg.grows_writeMessage caps)
    refine (hsingle trivial).trans ?_
    refine (declaresLength_data_iff largeSdu hflags message).trans ?_
    rw [hsize]
    rfl
  | connect msg => exact msg.lengthsAgree_iff_fits h

/-- A query without binds: `SELECT 1 FROM DUAL`. -/
def selectOne : Statement := { sql := "SELECT 1 FROM DUAL", statementType := .query }

/-- The lengths in the packet of a short query are right. -/
theorem Request.lengthsAgree_selectOne : ∃ packets,
    (execute .rejecting {} (.new selectOne (.forQuery 100)) false).build = .ok packets ∧
      (execute .rejecting {} (.new selectOne (.forQuery 100)) false).LengthsAgree packets :=
  ⟨_, rfl, (lengthsAgree_iff _ _ rfl).mpr (by show _ < _; decide)⟩

/-- A connect request with `n` bytes of connect data. -/
def ConnectMessage.ofLength (n : ℕ) : ConnectMessage where
  versionDesired := 319
  versionMinimum := 300
  serviceOptions := 0x0401
  sdu := 8192
  tdu := 65535
  protocolCharacteristics := 0x4F98
  nsiFlags := 0x84
  connectFlags1 := 0
  connectFlags2 := 1
  connectData := String.ofList (List.replicate n 'x')

lemma ConnectMessage.length_ofLength (n : ℕ) : (ofLength n).connectDataBytes.length = n := by
  rw [connectDataBytes, ofLength, asBytes_ofList]
  · simp
  · intro c hc
    rw [List.eq_of_mem_replicate hc]
    decide

/-- Long connect data is sent in a DATA packet that declares a wrong length. -/
lemma ConnectMessage.exists_not_lengthsAgree {n : ℕ} (hn : 65526 ≤ n) :
    ∃ packets, (Request.connect (ofLength n)).build = .ok packets ∧
      ¬(Request.connect (ofLength n)).LengthsAgree packets := by
  have hlength := length_ofLength n
  have hsplit : (ofLength n).needsSplit = true := by
    rw [needsSplit, hlength, maxConnectData]
    exact decide_eq_true (by omega)
  have hbuild := (ofLength n).buildWithContinuation_eq
  rw [hsplit, if_pos rfl] at hbuild
  refine ⟨_, by rw [Request.build, hbuild]; rfl, ?_⟩
  intro hagree
  have hfits := (lengthsAgree_of_split _).mp hagree
  rw [hlength] at hfits
  omega

/-- A connect descriptor of 65536 bytes is sent with a wrong length. -/
theorem Request.not_lengthsAgree :
    ¬∀ (r : Request) (packets : List Bytes), r.build = .ok packets → r.LengthsAgree packets := by
  intro hall
  have hlong : 65526 ≤ 65536 := by decide
  obtain ⟨packets, hbuild, hnot⟩ := ConnectMessage.exists_not_lengthsAgree hlong
  exact hnot (hall _ packets hbuild)

end OracleRs
