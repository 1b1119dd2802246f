import OracleRs.Connection.Handshake
import OracleRs.Connection.ServerPackets
import OracleRs.Messages.KeyAgreement
import OracleRs.Messages.RequestLength

set_option relaxedAutoImplicit false
set_option autoImplicit false

/-!
# Honest servers

A handshake with a server that keeps to the protocol and knows the password: it succeeds on every way through
the handshake, and takes exactly the packets of the server.

## Main definitions

* `OracleRs.Login.Facing` — what the client is going to read.
* `OracleRs.Login.Authenticates` — the server's part of the authentication.
* `OracleRs.Login.Served` — the packets of an honest server.

## Main results

* `OracleRs.Login.performHandshake_served` — the handshake succeeds, and both sides have the same key.
-/

namespace OracleRs

open Cursor
open Triple

namespace Login

open HandshakeInner

/-! ## What the client is going to read -/

/-- The client is going to read the bytes, every write succeeds, and what has been sent meets a condition with
the capabilities. -/
def Facing (largeSdu : Bool) (bytes : Bytes) (T : List Bytes → Capabilities → Prop) (inner : HandshakeInner) :
    Prop :=
  inner.incoming = bytes ∧ inner.largeSdu = largeSdu ∧ (∀ i, inner.writes i = true) ∧
    T inner.sent inner.capabilities

/-- Nothing is known of what has been sent. -/
def Anything (_ : List Bytes) (_ : Capabilities) : Prop := True

/-- The computation succeeds. -/
abbrev Succeeds {α : Type} (P : HandshakeInner → Prop) (m : HandshakeM α) (Q : α → HandshakeInner → Prop) : Prop :=
  Holds P m Q fun _ => False

section Transport

variable {largeSdu : Bool} {t : PacketType} {payload packet rest bytes : Bytes} {T : List Bytes → Capabilities → Prop}

lemma succeeds_send (data : Bytes) (C : Capabilities → Prop) :
    Succeeds (Facing largeSdu bytes fun _ caps => C caps) (send data)
      (fun _ => Facing largeSdu bytes fun sent caps => sent.getLast? = some data ∧ C caps) := by
  rintro inner ⟨hin, hlarge, hwrites, hcaps⟩
  show Ends _ _ ((if inner.writes inner.sent.length then
    (modify fun inner => { inner with sent := inner.sent ++ [data] }) else fail .io : HandshakeM Unit) inner)
  rw [if_pos (hwrites _)]
  exact ⟨hin, hlarge, hwrites, List.getLast?_concat, hcaps⟩

variable (largeSdu bytes T) in
lemma succeeds_readExact (head : Bytes) : Succeeds (Facing largeSdu (head ++ bytes) T) (readExact head.length)
    (fun read inner => read = head ∧ Facing largeSdu bytes T inner) := by
  rintro inner ⟨hin, hopen⟩
  show Ends _ _ ((if head.length ≤ inner.incoming.length then (do
    modify fun s => { s with incoming := inner.incoming.drop head.length }
    return inner.incoming.take head.length) else _ : HandshakeM Bytes) inner)
  rw [hin, if_pos (by simp)]
  exact ⟨List.take_left, List.drop_left, hopen⟩

variable (rest T) in
/-- A packet is received. -/
lemma succeeds_receive (h : IsPacket largeSdu t payload packet) :
    Succeeds (Facing largeSdu (packet ++ rest) T) receive
      (fun p inner => p = packet ∧ Facing largeSdu rest T inner) := by
  have hlen := h.length_eq
  have hhead : (packet.take packetHeaderSize).length = packetHeaderSize := by
    rw [List.length_take]
    omega
  have hread := succeeds_readExact largeSdu (payload ++ rest) T (packet.take packetHeaderSize)
  rw [hhead, ← h.drop_eq, ← List.append_assoc, List.take_append_drop, h.drop_eq] at hread
  refine hread.bind fun header => Holds.assume ?_
  rintro rfl
  refine Holds.get_bind fun inner hinner => ?_
  have hpayload : packet.length - packetHeaderSize = payload.length := by omega
  have hpacket : packet.take packetHeaderSize ++ payload = packet := by
    rw [← h.drop_eq, List.take_append_drop]
  rw [hinner.2.1, h.eval_take]
  dsimp only
  rw [hpayload]
  refine (Holds.ite (fun _ => ?_) fun hzero => ?_).strengthen fun s hs => hs ▸ hinner
  · refine (succeeds_readExact largeSdu rest T payload).bind fun read => Holds.assume ?_
    rintro rfl
    exact Holds.pure fun _ h => ⟨hpacket, h⟩
  · obtain rfl : payload = [] := List.eq_nil_of_length_eq_zero (by omega)
    rw [List.append_nil] at hpacket
    exact Holds.pure fun _ h => ⟨hpacket, h⟩

variable (rest T) in
/-- The packets of a response are received, one turn for each. -/
lemma succeeds_repeated {packets : List Bytes} {received : Received}
    (hpackets : ∀ packet ∈ packets, ∃ t payload, IsPacket largeSdu t payload packet) (n : ℕ) (s : Accum)
    (hdrive : Drive.drive receiveTurn s packets = .returned (.ok received) []) (hn : packets.length ≤ n) :
    Succeeds (Facing largeSdu (packets.flatten ++ rest) T)
      (Built.repeated (.of .stuck) receiveResponseTurn n s)
      (fun r inner => r = received ∧ Facing largeSdu rest T inner) := by
  induction packets generalizing n s with
  | nil => cases hdrive
  | cons packet packets ih =>
    obtain ⟨n, rfl⟩ : ∃ m, n = m + 1 := ⟨n - 1, by rw [List.length_cons] at hn; omega⟩
    obtain ⟨t, payload, hpacket⟩ := hpackets packet List.mem_cons_self
    have hpackets' : ∀ p ∈ packets, ∃ t payload, IsPacket largeSdu t payload p :=
      fun p hp => hpackets p (List.mem_cons_of_mem packet hp)
    rw [List.flatten_cons, List.append_assoc]
    have hreceive := succeeds_receive (packets.flatten ++ rest) T hpacket
    cases hturn : receiveTurn s packet with
    | inl s' =>
      rw [Drive.drive_cons_of_more hturn] at hdrive
      have hbody : Succeeds (Facing largeSdu (packet ++ (packets.flatten ++ rest)) T) (receiveResponseTurn s)
          (fun r inner => r = .inl s' ∧ Facing largeSdu (packets.flatten ++ rest) T inner) := by
        refine hreceive.bind fun p => Holds.assume ?_
        rintro rfl
        rw [hturn]
        exact Holds.pure fun _ h => ⟨rfl, h⟩
      refine hbody.bind fun r => Holds.assume ?_
      rintro rfl
      exact ih hpackets' n s' hdrive (by simpa using hn)
    | inr r =>
      rw [Drive.drive_cons_of_done hturn] at hdrive
      obtain ⟨rfl, rfl⟩ : r = .ok received ∧ packets = [] := by
        cases hdrive
        exact ⟨rfl, rfl⟩
      have hbody : Succeeds (Facing largeSdu (packet ++ (([] : List Bytes).flatten ++ rest)) T)
          (receiveResponseTurn s) (fun r inner => r = .inr received ∧ Facing largeSdu rest T inner) := by
        refine hreceive.bind fun p => Holds.assume ?_
        rintro rfl
        rw [hturn]
        exact Holds.pure fun _ h => ⟨rfl, h⟩
      refine hbody.bind fun r => Holds.assume ?_
      rintro rfl
      exact Holds.pure fun _ h => ⟨rfl, h⟩

/-- There are no more packets than bytes. -/
lemma length_le_length_flatten {packets : List Bytes}
    (hpackets : ∀ packet ∈ packets, ∃ t payload, IsPacket largeSdu t payload packet) :
    packets.length ≤ packets.flatten.length := by
  induction packets with
  | nil => exact le_rfl
  | cons packet packets ih =>
    obtain ⟨t, payload, hpacket⟩ := hpackets packet List.mem_cons_self
    have hlen := hpacket.length_eq
    have hrest := ih fun p hp => hpackets p (List.mem_cons_of_mem packet hp)
    rw [packetHeaderSize] at hlen
    rw [List.length_cons, List.flatten_cons, List.length_append]
    omega

/-- A response is received, and its payload is in one packet. -/
lemma succeeds_receiveResponse {packets : List Bytes} (h : Carries largeSdu payload packets) :
    Succeeds (Facing largeSdu (packets.flatten ++ rest) T) HandshakeInner.receiveResponse
      (fun response inner => HasPayload .data payload response ∧ Facing largeSdu rest T inner) := by
  refine Holds.get_bind fun inner hinner => ?_
  have hlen := length_le_length_flatten h.isPacket
  have hfuel : packets.length ≤ inner.incoming.length + 1 := by
    rw [hinner.1, List.length_append]
    omega
  have hloop := succeeds_repeated rest T h.isPacket _ .start h.complete hfuel
  have hstart : ∀ s, s = inner → Facing largeSdu (packets.flatten ++ rest) T s := fun s hs => hs ▸ hinner
  refine (hloop.strengthen hstart).bind fun received => Holds.assume ?_
  rintro rfl
  refine Holds.get_bind fun inner hinner => ?_
  rintro _ rfl
  exact ⟨hasPayload_buildDataPacketFromPayload _ _, hinner⟩

end Transport

/-! ## The messages of the authentication -/

section Authentication

variable (crypto : Crypto) (login : Login) (draws : Draws)

/-- A message with pairs. -/
def pairsMessage (pairs : List (String × String × UInt32)) : Bytes :=
  [MessageType.parameter.code] ++ (ubBytes pairs.length ++ pairs.flatMap AuthMessage.pairBytes)

/-- The payload of a packet with pairs. -/
def pairsPayload (flags : UInt8 × UInt8) (pairs : List (String × String × UInt32)) : Bytes :=
  [flags.1, flags.2] ++ pairsMessage pairs

/-- Pairs that can be written. -/
structure Writable (pairs : List (String × String × UInt32)) : Prop where
  /-- their number -/
  length_lt : pairs.length < 2 ^ 16
  /-- their values -/
  kept : ∀ pair ∈ pairs, AuthMessage.ValueKept pair.2.1

/-- The server's part of the authentication: a challenge for the password, and a proof that it has the key of
both. -/
structure Authenticates (challenge : Challenge) (first second : List (String × String × UInt32))
    (combo : Bytes) : Prop where
  /-- the challenge is one that the client supports -/
  legal : challenge.Legal
  /-- the pairs of the challenge -/
  writable : Writable first
  /-- they have the challenge -/
  sentIn : challenge.SentIn crypto login.password first
  /-- the key -/
  comboKey : challenge.comboKey crypto (draws.random challenge.partA.length) = .ok combo
  /-- the pairs of the proof -/
  writable' : Writable second
  /-- they have the proof, encrypted with the key -/
  proved : ∃ text blocks, Challenge.ProvedBy second text ∧ crypto.hexDecode text = .ok blocks ∧
    Crypto.FullBlocks blocks ∧ Challenge.Marked (challenge.decrypt crypto combo blocks)

/-- The numbers that the client draws have the lengths that it asks for. -/
structure Sized : Prop where
  /-- the part of the session key -/
  random : ∀ n, (draws.random n).length = n
  /-- the salt of the password -/
  passwordSalt : draws.passwordSalt.length = 16
  /-- the salt of the speedy key -/
  speedySalt : draws.speedySalt.length = 16

/-- The values of the client can be written in a request. -/
structure Fits : Prop where
  /-- the password -/
  password : login.password.length < 2 ^ 30
  /-- the values of the second request -/
  client : ∀ value ∈ [login.client.driverName, login.client.clientVersion, login.client.alterTimezone],
    AuthMessage.ValueKept value

/-- What the server finds in the last message of the client agrees with the key. -/
def Agreed (challenge : Challenge) (combo : Bytes) (sent : List Bytes) (caps : Capabilities) : Prop :=
  ∃ request found, sent.getLast? = some request ∧ (AuthRequest.read caps true).runOn request = .ok found ∧
    found.user = login.client.user? ∧ challenge.serverComboKey crypto login.password found.pairs = some combo ∧
    challenge.serverPassword crypto combo found.pairs = some login.password

/-- The connection is ready, with a key upon which both sides agree; what is left to be read has come behind the
handshake. -/
structure LoggedIn (challenge : Challenge) (combo rest : Bytes) (inner : HandshakeInner) : Prop where
  /-- the state -/
  state : inner.state = .ready
  /-- what is left -/
  incoming : inner.incoming = rest
  /-- the key -/
  comboKey : inner.capabilities.comboKey = some combo
  /-- the server's key -/
  agreed : Agreed crypto login challenge combo inner.sent inner.capabilities

end Authentication

section Phases

variable {crypto : Crypto} {login : Login} {draws : Draws} {challenge : Challenge} {combo rest : Bytes}
  {first second : List (String × String × UInt32)} {T : List Bytes → Capabilities → Prop}

/-- A payload with pairs is no error. -/
lemma not_holdsError {flags : UInt8 × UInt8} {pairs : List (String × String × UInt32)} {t : PacketType}
    {packet : Bytes} (h : HasPayload t (pairsPayload flags pairs) packet) : ¬ holdsError packet := by
  rintro ⟨-, hcode⟩
  rw [h.getD_add 2] at hcode
  have hne : MessageType.parameter.code ≠ MessageType.error.code := by decide
  exact hne hcode

lemma length_pairsPayload_pos {flags : UInt8 × UInt8} {pairs : List (String × String × UInt32)} {t : PacketType}
    {packet : Bytes} (h : HasPayload t (pairsPayload flags pairs) packet) :
    ¬ packet.length ≤ packetHeaderSize := by
  have hlen := h.length_eq
  simp only [pairsPayload, pairsMessage, List.length_append, List.length_cons, List.length_nil] at hlen
  omega

lemma runOn_pairsPayload {pairs : List (String × String × UInt32)} (h : Writable pairs)
    (flags : UInt8 × UInt8) : readPairs.runOn (pairsPayload flags pairs) = .ok pairs :=
  AuthMessage.runOn_readPairs h.length_lt h.kept (by decide) flags

lemma succeeds_parseAuth {payload : Bytes} {auth auth' : AuthMessage} {P : HandshakeInner → Prop}
    (h : AuthMessage.parseResponse crypto draws.random payload auth = .ok () auth') :
    Succeeds P (parseAuth crypto draws payload auth) (fun a inner => a = auth' ∧ P inner) := by
  unfold parseAuth
  rw [h]
  exact Holds.pure fun _ hP => ⟨rfl, hP⟩

/-- The client behind the challenge. -/
structure Challenged (crypto : Crypto) (login : Login) (draws : Draws) (challenge : Challenge) (combo : Bytes)
    (auth : AuthMessage) : Prop where
  /-- it waits for the proof -/
  phase : auth.phase = .two
  /-- it has the key -/
  comboKey : auth.comboKey = some combo
  /-- its request agrees with the key -/
  requests : ∀ caps largeSdu, ∃ request found,
    login.client.buildRequest crypto caps largeSdu draws.passwordSalt draws.speedySalt auth = .ok request ∧
    (AuthRequest.read caps largeSdu).runOn request = .ok found ∧
    challenge.Agreement crypto login.client auth found login.password combo

/-- The first response is accepted. -/
lemma exists_challenged (hcrypto : crypto.Lawful) (hdraws : Sized draws) (hlogin : Fits login)
    (h : Authenticates crypto login draws challenge first second combo) (flags : UInt8 × UInt8) :
    ∃ auth, AuthMessage.parseResponse crypto draws.random (pairsPayload flags first) login.newAuth = .ok () auth ∧
      Challenged crypto login draws challenge combo auth := by
  have hphase : login.newAuth.phase = .one := rfl
  obtain ⟨auth, hparse, hrequests⟩ := Challenge.agreement_of_comboKey hcrypto h.legal hdraws.random hphase
    hlogin.password (runOn_pairsPayload h.writable flags) h.sentIn hlogin.client hdraws.passwordSalt
    hdraws.speedySalt h.comboKey
  obtain ⟨_, _, _, _, hagree⟩ := hrequests default true
  exact ⟨auth, hparse, hagree.phase, hagree.clientKey, hrequests⟩

/-- The second response is accepted. -/
lemma exists_completed (h : Authenticates crypto login draws challenge first second combo) {auth : AuthMessage}
    (hauth : Challenged crypto login draws challenge combo auth) (flags : UInt8 × UInt8) :
    ∃ auth', AuthMessage.parseResponse crypto draws.random (pairsPayload flags second) auth = .ok () auth' ∧
      auth'.isComplete = true ∧ auth'.comboKey = some combo := by
  obtain ⟨_, _, _, _, hagree⟩ := hauth.requests default true
  obtain ⟨text, blocks, hproved, hdecode, hblocks, hmarked⟩ := h.proved
  have hread := runOn_pairsPayload h.writable' flags
  obtain ⟨auth', hparse, hcomplete⟩ := (hagree.proofs draws.random _ second text hread hproved).mpr
    ⟨blocks, hdecode, hblocks, hmarked⟩
  refine ⟨auth', hparse, hcomplete, ?_⟩
  rw [AuthMessage.parseResponse_of_two crypto draws.random hread hauth.phase] at hparse
  cases hverify : AuthMessage.verifyServerResponse crypto (auth.received second) with
  | error e =>
    rw [hverify] at hparse
    cases hparse
  | ok u =>
    rw [hverify] at hparse
    cases hparse
    exact hauth.comboKey

/-- The second phase succeeds. -/
lemma succeeds_authenticatePhaseTwo (h : Authenticates crypto login draws challenge first second combo)
    {auth : AuthMessage} (hauth : Challenged crypto login draws challenge combo auth) {flags : UInt8 × UInt8}
    {packets : List Bytes} (hpackets : Carries true (pairsPayload flags second) packets) :
    Succeeds (Facing true (packets.flatten ++ rest) T) (authenticatePhaseTwo crypto login draws auth)
      (fun auth' inner => (auth'.isComplete = true ∧ auth'.comboKey = some combo) ∧
        Facing true rest (Agreed crypto login challenge combo) inner) := by
  obtain ⟨auth', hparse, hdone⟩ := exists_completed h hauth flags
  unfold authenticatePhaseTwo buildAuth
  rw [if_neg (not_not.mpr hauth.phase), bind_assoc]
  refine Holds.get_bind fun inner hinner => ?_
  obtain ⟨request, found, hbuild, hread, hagree⟩ := hauth.requests inner.capabilities true
  rw [hinner.2.1, hbuild]
  have hstart : ∀ s, s = inner →
      Facing true (packets.flatten ++ rest) (fun _ caps => caps = inner.capabilities) s := by
    rintro _ rfl
    exact ⟨hinner.1, hinner.2.1, hinner.2.2.1, rfl⟩
  refine ((succeeds_send request _).strengthen hstart).bind fun _ => ?_
  refine (succeeds_receiveResponse hpackets).bind fun response => Holds.assume fun hresponse => ?_
  have hdata : PacketType.data.code ≠ PacketType.marker.code := by decide
  rw [if_neg (length_pairsPayload_pos hresponse), hresponse.getD_four, if_neg hdata,
    if_neg (not_holdsError hresponse), hresponse.drop_eq]
  refine (succeeds_parseAuth hparse).weaken fun a inner' ha => ?_
  obtain ⟨rfl, hin, hlarge, hwrites, hlast, hcaps⟩ := ha
  refine ⟨hdone, hin, hlarge, hwrites, request, found, hlast, ?_, hagree.user, hagree.serverKey,
    hagree.readPassword⟩
  rwa [hcaps]

/-- The connection is finished. -/
lemma succeeds_finishAuthentication {auth' : AuthMessage} (hcomplete : auth'.isComplete = true)
    (hcombo : auth'.comboKey = some combo) :
    Succeeds (Facing true rest (Agreed crypto login challenge combo)) (finishAuthentication auth')
      (fun _ => LoggedIn crypto login challenge combo rest) := by
  unfold finishAuthentication
  rw [hcomplete]
  refine Holds.modify fun inner hinner => ⟨rfl, hinner.1, ?_, hinner.2.2.2⟩
  rw [hcombo]
  rfl

/-- Both phases succeed. -/
lemma succeeds_authenticate (hcrypto : crypto.Lawful) (hdraws : Sized draws) (hlogin : Fits login)
    (h : Authenticates crypto login draws challenge first second combo) {flags flags' : UInt8 × UInt8}
    {t : PacketType} {packet : Bytes} (hpacket : IsPacket true t (pairsPayload flags first) packet)
    {packets : List Bytes} (hpackets : Carries true (pairsPayload flags' second) packets) :
    Succeeds (Facing true (packet ++ (packets.flatten ++ rest)) Anything) (authenticate crypto login draws)
      (fun _ => LoggedIn crypto login challenge combo rest) := by
  obtain ⟨auth, hparse, hauth⟩ := exists_challenged hcrypto hdraws hlogin h flags
  have hresponse := hpacket.hasPayload
  unfold authenticate buildAuth
  rw [bind_assoc]
  refine Holds.get_bind fun inner hinner => ?_
  have hbuild : login.client.buildRequest crypto inner.capabilities inner.largeSdu draws.passwordSalt
      draws.speedySalt login.newAuth = .ok _ := login.client.buildPhaseOne_eq inner.capabilities inner.largeSdu
  rw [hbuild]
  have hstart : ∀ s, s = inner →
      Facing true (packet ++ (packets.flatten ++ rest)) (fun _ _ => True) s := by
    rintro _ rfl
    exact hinner
  refine ((succeeds_send _ _).strengthen hstart).bind fun _ => ?_
  refine (succeeds_receive _ _ hpacket).bind fun response => Holds.assume ?_
  rintro rfl
  rw [if_neg (length_pairsPayload_pos hresponse), if_neg (not_holdsError hresponse), hresponse.drop_eq]
  refine (succeeds_parseAuth hparse).bind fun a => Holds.assume ?_
  rintro rfl
  refine (succeeds_authenticatePhaseTwo h hauth hpackets).bind fun auth' => Holds.assume fun hdone => ?_
  exact succeeds_finishAuthentication hdone.1 hdone.2

end Phases

/-! ## The negotiations -/

section Negotiations

variable {rest : Bytes} {T : List Bytes → Capabilities → Prop}

/-- What is known of the capabilities need not be known any longer. -/
lemma facing_anything {largeSdu : Bool} {inner : HandshakeInner} (h : Facing largeSdu rest T inner) :
    Facing largeSdu rest Anything inner := ⟨h.1, h.2.1, h.2.2.1, trivial⟩

lemma succeeds_sendOobCheck {t : PacketType} {payload packet : Bytes} {C : Capabilities → Prop}
    (hpacket : IsPacket true t payload packet) :
    Succeeds (Facing true (packet ++ rest) fun _ caps => C caps) sendOobCheck
      (fun _ => Facing true rest fun _ caps => C caps) := by
  have hforget {bytes data : Bytes} {inner : HandshakeInner}
      (h : Facing true bytes (fun sent caps => sent.getLast? = some data ∧ C caps) inner) :
      Facing true bytes (fun _ caps => C caps) inner := ⟨h.1, h.2.1, h.2.2.1, h.2.2.2.2⟩
  refine (succeeds_send [0x21] C).bind fun _ => Holds.get_bind fun inner hinner => ?_
  have hstart : ∀ s, s = inner → Facing true (packet ++ rest) (fun _ caps => C caps) s := fun s hs => hs ▸ hforget hinner
  refine ((succeeds_send _ C).strengthen hstart).bind fun _ => ?_
  refine (succeeds_receive rest _ hpacket).bind fun _ => Holds.pure fun _ h => hforget h.2

lemma succeeds_setBanner {C : Capabilities → Prop} (message : ProtocolMessage) :
    Succeeds (Facing true rest fun _ caps => C caps) (setBanner message)
      (fun _ => Facing true rest fun _ caps => C caps) := Holds.modify fun _ h => h

lemma succeeds_negotiateProtocol (m : ServerProtocol) {flags : UInt8 × UInt8} {tail packet : Bytes}
    (hpacket : IsPacket true .data ([flags.1, flags.2] ++ (m.encode ++ tail)) packet) :
    Succeeds (Facing true (packet ++ rest) Anything) negotiateProtocol (fun _ => Facing true rest Anything) := by
  have hlen := hpacket.length_eq
  have hheader : packetHeaderSize = 8 := rfl
  unfold negotiateProtocol
  refine Holds.get_bind fun inner hinner => ?_
  rw [ProtocolMessage.buildRequest_eq]
  have hstart : ∀ s, s = inner → Facing true (packet ++ rest) (fun _ _ => True) s := fun s hs => hs ▸ hinner
  refine ((succeeds_send _ _).strengthen hstart).bind fun _ => ?_
  refine (succeeds_receive rest _ hpacket).bind fun response => Holds.assume ?_
  rintro rfl
  have hcheck : ¬ (response.length ≤ 4 ∨ response.getD 4 0 ≠ PacketType.data.code) :=
    fun h => h.elim (fun hle => by omega) fun hne => hne hpacket.getD_four
  rw [if_neg hcheck, hpacket.drop_eq]
  refine Holds.bind (Q := fun _ => Facing true rest Anything) ?_ fun message =>
    (succeeds_setBanner message).bind fun _ => Holds.modify fun _ h => h
  refine Holds.get_bind fun inner hinner => ?_
  rw [m.parseResponse_encode]
  exact Holds.bind (Q := fun _ => Facing true rest Anything)
    (fun _ _ => ⟨hinner.1, hinner.2.1, hinner.2.2.1, trivial⟩) fun _ => Holds.pure fun _ h => h

lemma succeeds_negotiateDataTypes {payload packet : Bytes} (hpacket : IsPacket true .data payload packet) :
    Succeeds (Facing true (packet ++ rest) Anything) negotiateDataTypes (fun _ => Facing true rest Anything) := by
  have hlen := hpacket.length_eq
  have hheader : packetHeaderSize = 8 := rfl
  unfold negotiateDataTypes
  refine Holds.get_bind fun inner hinner => ?_
  rw [DataTypesMessage.buildRequest_eq]
  have hstart : ∀ s, s = inner → Facing true (packet ++ rest) (fun _ _ => True) s := fun s hs => hs ▸ hinner
  refine ((succeeds_send _ _).strengthen hstart).bind fun _ => ?_
  refine (succeeds_receive rest _ hpacket).bind fun response => Holds.assume ?_
  rintro rfl
  have hcheck : response.length > 4 ∧ response.getD 4 0 = PacketType.data.code := ⟨by omega, hpacket.getD_four⟩
  rw [if_pos hcheck]
  exact Holds.modify fun _ h => ⟨h.1, h.2.1, h.2.2.1, trivial⟩

end Negotiations

/-! ## CONNECT -/

section Connect

variable {rest : Bytes} {packets : Bytes × Option Bytes}

/-- The fast path is only announced by the server. -/
def NoFastAuth (_ : List Bytes) (caps : Capabilities) : Prop := caps.supportsFastAuth = false

/-- The connection is accepted. -/
def Accepted (m : ServerAccept) (rest : Bytes) (inner : HandshakeInner) : Prop :=
  (inner.serverInfo.protocolVersion ≥ minOobCheck ∧ inner.serverInfo.supportsOob = true ↔ m.hasOob) ∧
    Facing true rest (fun _ caps => caps.supportsFastAuth = true ↔ m.hasFastAuth) inner

lemma succeeds_sendConnect (packets : Bytes × Option Bytes) :
    Succeeds (Facing false rest NoFastAuth) (sendConnect packets) (fun _ => Facing false rest NoFastAuth) := by
  have hsend (data : Bytes) : Succeeds (Facing false rest NoFastAuth) (send data)
      (fun _ => Facing false rest NoFastAuth) :=
    (succeeds_send data fun caps => caps.supportsFastAuth = false).weaken
      fun _ _ h => ⟨h.1, h.2.1, h.2.2.1, h.2.2.2.2⟩
  refine (hsend packets.1).bind fun _ => ?_
  cases packets.2 with
  | none => exact Holds.pure fun _ h => h
  | some data => exact hsend data

/-- The flags say whether there is a fast path. -/
lemma supportsFastAuth_adjustForProtocol {caps : Capabilities} (hcaps : caps.supportsFastAuth = false)
    (version options : UInt16) (flags2 : UInt32) :
    (caps.adjustForProtocol version options flags2).supportsFastAuth = true ↔ flags2 &&& acceptFastAuth ≠ 0 := by
  have henable (caps : Capabilities) : caps.enableEndOfResponse.supportsFastAuth = caps.supportsFastAuth := rfl
  unfold Capabilities.adjustForProtocol
  dsimp only
  split_ifs <;> simp_all

/-- ACCEPT switches to long lengths. -/
lemma succeeds_acceptPacket (m : ServerAccept) {packet : Bytes} (h : IsPacket false .accept m.encode packet) :
    Succeeds (Facing false rest NoFastAuth) (acceptPacket packet) (fun _ => Accepted m rest) := by
  obtain ⟨p, accept, hpacket, hparse, hsaid⟩ := m.exists_parse h
  unfold acceptPacket
  rw [hpacket]
  show Succeeds _ (ofExcept (AcceptMessage.parse p) >>= fun accept => modify (afterAccept accept)) _
  rw [hparse]
  refine Holds.modify fun inner hinner => ⟨?_, hinner.1, (AcceptMessage.sdu_of_parse hparse).2, hinner.2.2.1, ?_⟩
  · show accept.protocolVersion ≥ _ ∧ accept.supportsOob = true ↔ _
    rw [hsaid.protocolVersion, hsaid.supportsOob]
    exact Iff.rfl
  · have hfast := supportsFastAuth_adjustForProtocol hinner.2.2.2 accept.protocolVersion accept.serviceOptions
      accept.flags2
    refine hfast.trans ?_
    rw [hsaid.flags2, ServerAccept.hasFastAuth]
    split_ifs with hlong
    · exact ⟨fun h => ⟨hlong, h⟩, And.right⟩
    · exact iff_of_false (fun h => h (UInt32.zero_and)) fun h => hlong h.1

/-- A turn that takes ACCEPT. -/
lemma succeeds_connectTurn_accept (m : ServerAccept) {packet : Bytes} (h : IsPacket false .accept m.encode packet) :
    Succeeds (Facing false (packet ++ rest) NoFastAuth) connectTurn
      (fun done inner => done = true ∧ Accepted m rest inner) := by
  have hlen := h.length_eq
  refine (succeeds_receive rest _ h).bind fun response => Holds.assume ?_
  rintro rfl
  have hshort : ¬ response.length < packetHeaderSize := by omega
  rw [if_neg hshort, if_pos h.getD_four]
  exact (succeeds_acceptPacket m h).bind fun _ => Holds.pure fun _ h => ⟨rfl, h⟩

/-- A turn that takes RESEND. -/
lemma succeeds_connectTurn_resend {payload packet : Bytes} (h : IsPacket false .resend payload packet) :
    Succeeds (Facing false (packet ++ rest) NoFastAuth) connectTurn
      (fun done inner => done = false ∧ Facing false rest NoFastAuth inner) := by
  have hlen := h.length_eq
  refine (succeeds_receive rest _ h).bind fun response => Holds.assume ?_
  rintro rfl
  have hshort : ¬ response.length < packetHeaderSize := by omega
  have hcode (t : PacketType) (ht : t.code ≠ PacketType.resend.code) : ¬ PacketType.resend.code = t.code :=
    fun heq => ht heq.symm
  rw [if_neg hshort, h.getD_four, if_neg (hcode .accept (by decide)), if_neg (hcode .refuse (by decide)),
    if_neg (hcode .redirect (by decide)), if_pos rfl]
  exact Holds.pure fun _ h => ⟨rfl, h⟩

/-- The packets are asked for again, for so many times at most, and then accepted. -/
lemma succeeds_awaitAccept (m : ServerAccept) {packet : Bytes} (h : IsPacket false .accept m.encode packet)
    {resends : List Bytes} (hresends : ∀ p ∈ resends, ∃ payload, IsPacket false .resend payload p) {n : ℕ}
    (hn : resends.length ≤ n) :
    Succeeds (Facing false (resends.flatten ++ (packet ++ rest)) NoFastAuth) (awaitAccept packets n)
      (fun _ => Accepted m rest) := by
  induction resends generalizing n with
  | nil =>
    cases n with
    | zero =>
      refine (succeeds_connectTurn_accept m h).bind fun done => Holds.assume ?_
      rintro rfl
      exact Holds.pure fun _ h => h
    | succ n =>
      refine (succeeds_connectTurn_accept m h).bind fun done => Holds.assume ?_
      rintro rfl
      exact Holds.pure fun _ h => h
  | cons p resends ih =>
    obtain ⟨n, rfl⟩ : ∃ k, n = k + 1 := ⟨n - 1, by rw [List.length_cons] at hn; omega⟩
    obtain ⟨payload, hp⟩ := hresends p List.mem_cons_self
    rw [List.flatten_cons, List.append_assoc]
    refine (succeeds_connectTurn_resend hp).bind fun done => Holds.assume ?_
    rintro rfl
    refine (succeeds_sendConnect packets).bind fun _ => ?_
    exact ih (fun p' hp' => hresends p' (List.mem_cons_of_mem p hp')) (by simpa using hn)

lemma succeeds_sendConnectPacket (connect : ConnectMessage) (m : ServerAccept) {packet : Bytes}
    (h : IsPacket false .accept m.encode packet) {resends : List Bytes}
    (hresends : ∀ p ∈ resends, ∃ payload, IsPacket false .resend payload p) (hn : resends.length ≤ maxResends) :
    Succeeds (Facing false (resends.flatten ++ (packet ++ rest)) NoFastAuth) (sendConnectPacket connect)
      (fun _ => Accepted m rest) := by
  obtain ⟨packets, hbuild⟩ : ∃ packets, connect.buildWithContinuation = .ok packets :=
    ⟨_, connect.buildWithContinuation_eq⟩
  rw [sendConnectPacket, hbuild]
  exact (succeeds_sendConnect packets).bind fun _ => succeeds_awaitAccept m h hresends hn

end Connect

/-! ## The fast path -/

/-- A negotiation in the answer of the fast path. -/
inductive Negotiation where
  /-- the protocol -/
  | protocol (m : ServerProtocol)
  /-- the data types -/
  | dataTypes (answers : List TypeAnswer)

/-- The bytes of a negotiation. -/
def Negotiation.encode : Negotiation → Bytes
  | protocol m => m.encode
  | dataTypes answers => messageTypeDataTypes :: TypeAnswer.encodeAll answers

section Fast

variable {crypto : Crypto} {login : Login} {draws : Draws} {challenge : Challenge} {combo rest : Bytes}
  {first second : List (String × String × UInt32)} {flags final : Bytes}

lemma Negotiation.encode_ne_nil (message : Negotiation) : message.encode ≠ [] := by
  cases message <;> exact List.cons_ne_nil _ _

/-- A negotiation of the protocol is taken. -/
lemma succeeds_fastAuthProtocol (m : ServerProtocol) {s : FastAuthState} (hs : s.1.rest = m.encode ++ final) :
    Succeeds (Facing true rest Anything) (fastAuthProtocol s)
      (fun s' inner => s'.1.rest = final ∧ Facing true rest Anything inner) := by
  refine Holds.get_bind fun inner hinner => ?_
  rw [m.readsAs_parseMessage (s.2, inner.capabilities) s.1 final hs]
  have hset : Succeeds (fun s' => s' = inner) (set { inner with capabilities := (m.applied (s.2, inner.capabilities)).2 })
      (fun _ => Facing true rest Anything) := fun _ _ => ⟨hinner.1, hinner.2.1, hinner.2.2.1, trivial⟩
  refine hset.bind fun _ => (succeeds_setBanner _).bind fun _ => ?_
  exact Holds.bind (Q := fun _ => Facing true rest Anything) (Holds.modify fun _ h => h) fun _ =>
    Holds.pure fun _ h => ⟨rest_advance_of_append hs, h⟩

/-- A negotiation of the data types is taken. -/
lemma succeeds_fastAuthDataTypes (answers : List TypeAnswer) {s : FastAuthState}
    (hs : s.1.rest = (messageTypeDataTypes :: TypeAnswer.encodeAll answers) ++ final) :
    Succeeds (Facing true rest Anything) (fastAuthDataTypes s)
      (fun s' inner => s'.1.rest = final ∧ Facing true rest Anything inner) := by
  unfold fastAuthDataTypes
  rw [DataTypesMessage.reads_parseMessage answers s.1 final hs]
  exact Holds.bind (Q := fun _ => Facing true rest Anything) (Holds.modify fun _ h => h) fun _ =>
    Holds.pure fun _ h => ⟨rest_advance_of_append hs, h⟩

/-- A turn takes a negotiation. -/
lemma succeeds_fastAuthTurn (message : Negotiation) {s : FastAuthState} (hs : s.1.rest = message.encode ++ final) :
    Succeeds (Facing true rest Anything) (login.fastAuthTurn crypto draws flags s)
      (fun r inner => (∃ s', r = .inl s' ∧ s'.1.rest = final) ∧ Facing true rest Anything inner) := by
  have htypes : messageTypeDataTypes ≠ messageTypeProtocol := by decide
  unfold fastAuthTurn
  cases message with
  | protocol m =>
    have hhead : s.1.rest = messageTypeProtocol :: (m.body ++ final) := hs
    rw [hhead]
    dsimp only
    rw [fastAuthMessage, if_pos rfl]
    exact (succeeds_fastAuthProtocol m hs).bind fun s' => Holds.pure fun _ h => ⟨⟨s', rfl, h.1⟩, h.2⟩
  | dataTypes answers =>
    have hhead : s.1.rest = messageTypeDataTypes :: (TypeAnswer.encodeAll answers ++ final) := hs
    rw [hhead]
    dsimp only
    rw [fastAuthMessage, if_neg htypes, if_pos rfl]
    exact (succeeds_fastAuthDataTypes answers hs).bind fun s' => Holds.pure fun _ h => ⟨⟨s', rfl, h.1⟩, h.2⟩

/-- The loop takes the negotiations, and ends with what comes behind them. -/
lemma succeeds_repeated_fastAuthTurn {e : FastAuthEnd}
    (hfinal : ∀ s : FastAuthState, s.1.rest = final →
      Succeeds (Facing true rest Anything) (login.fastAuthTurn crypto draws flags s)
        (fun r inner => r = .inr e ∧ Facing true rest Anything inner))
    (messages : List Negotiation) (n : ℕ) (s : FastAuthState)
    (hs : s.1.rest = messages.flatMap Negotiation.encode ++ final) (hn : messages.length < n) :
    Succeeds (Facing true rest Anything) (Built.repeated (.of .stuck) (login.fastAuthTurn crypto draws flags) n s)
      (fun r inner => r = e ∧ Facing true rest Anything inner) := by
  induction messages generalizing n s with
  | nil =>
    obtain ⟨n, rfl⟩ : ∃ k, n = k + 1 := ⟨n - 1, by omega⟩
    refine (hfinal s hs).bind fun r => Holds.assume ?_
    rintro rfl
    exact Holds.pure fun _ h => ⟨rfl, h⟩
  | cons message messages ih =>
    rw [List.flatMap_cons, List.append_assoc] at hs
    rw [List.length_cons] at hn
    obtain ⟨n, rfl⟩ : ∃ k, n = k + 1 := ⟨n - 1, by omega⟩
    refine (succeeds_fastAuthTurn message hs).bind fun r => Holds.assume ?_
    rintro ⟨s', rfl, hs'⟩
    exact ih n s' hs' (by omega)

/-- The answer to the fast path: negotiations, and what comes behind them. -/
def fastAnswer (flags : UInt8 × UInt8) (messages : List Negotiation) (final : Bytes) : Bytes :=
  [flags.1, flags.2] ++ (messages.flatMap Negotiation.encode ++ final)

lemma length_le_length_flatMap (messages : List Negotiation) :
    messages.length ≤ (messages.flatMap Negotiation.encode).length := by
  induction messages with
  | nil => exact le_rfl
  | cons message messages ih =>
    have hpos := List.length_pos_iff.mpr message.encode_ne_nil
    rw [List.length_cons, List.flatMap_cons, List.length_append]
    omega

/-- The exchange of the fast path ends with what comes behind the negotiations. -/
lemma succeeds_fastAuthExchange {flags : UInt8 × UInt8} {messages : List Negotiation} {final : Bytes}
    (hne : final ≠ []) {packets : List Bytes} (hpackets : Carries true (fastAnswer flags messages final) packets)
    {e : FastAuthEnd} (hfinal : ∀ s : FastAuthState, s.1.rest = final →
      Succeeds (Facing true rest Anything) (login.fastAuthTurn crypto draws [flags.1, flags.2] s)
        (fun r inner => r = .inr e ∧ Facing true rest Anything inner)) :
    Succeeds (Facing true (packets.flatten ++ rest) Anything) (login.fastAuthExchange crypto draws)
      (fun r inner => r = e ∧ Facing true rest Anything inner) := by
  have hpos := List.length_pos_iff.mpr hne
  have hmessages := length_le_length_flatMap messages
  unfold fastAuthExchange
  refine Holds.get_bind fun inner hinner => ?_
  rw [WriteM.freezeAsData_eq _ (login.writes_writeFastAuth inner.capabilities)]
  have hstart : ∀ s, s = inner → Facing true (packets.flatten ++ rest) (fun _ _ => True) s :=
    fun s hs => hs ▸ hinner
  refine ((succeeds_send _ _).strengthen hstart).bind fun _ => ?_
  refine (succeeds_receiveResponse hpackets).bind fun response => Holds.assume fun hresponse => ?_
  have hlen := hresponse.length_eq
  simp only [fastAnswer, List.length_append, List.length_cons, List.length_nil] at hlen
  have hlong : ¬ response.length ≤ packetHeaderSize := by omega
  have hlong' : ¬ response.length < packetHeaderSize + 3 := by omega
  rw [if_neg hlong, if_neg hlong', hresponse.drop_eq]
  have hrest : (⟨messages.flatMap Negotiation.encode ++ final, 0⟩ : ReadBuffer).rest =
      messages.flatMap Negotiation.encode ++ final := rest_mk_zero _
  refine (succeeds_repeated_fastAuthTurn hfinal messages _ _ hrest ?_).strengthen fun _ h => facing_anything h
  simp only [fastAnswer, List.length_append, List.length_cons, List.length_nil]
  omega

/-- The fast path succeeds. -/
lemma succeeds_authenticateWithFastAuth (hcrypto : crypto.Lawful) (hdraws : Sized draws) (hlogin : Fits login)
    (h : Authenticates crypto login draws challenge first second combo) {flags flags' : UInt8 × UInt8}
    {messages : List Negotiation} {packets packets' : List Bytes}
    (hpackets : Carries true (fastAnswer flags messages (pairsMessage first)) packets)
    (hpackets' : Carries true (pairsPayload flags' second) packets') :
    Succeeds (Facing true (packets.flatten ++ (packets'.flatten ++ rest)) Anything)
      (login.authenticateWithFastAuth crypto draws)
      (fun done inner => done = true ∧ LoggedIn crypto login challenge combo rest inner) := by
  obtain ⟨auth, hparse, hauth⟩ := exists_challenged hcrypto hdraws hlogin h flags
  have hcode (c : UInt8) (hc : MessageType.parameter.code ≠ c) : ¬ MessageType.parameter.code = c := hc
  have hfinal (bytes : Bytes) (s : FastAuthState) (hs : s.1.rest = pairsMessage first) :
      Succeeds (Facing true bytes Anything) (login.fastAuthTurn crypto draws [flags.1, flags.2] s)
        (fun r inner => r = .inr (.authResponse auth) ∧ Facing true bytes Anything inner) := by
    unfold fastAuthTurn
    have hhead : s.1.rest = MessageType.parameter.code ::
        (ubBytes first.length ++ first.flatMap AuthMessage.pairBytes) := hs
    rw [hhead]
    dsimp only
    rw [fastAuthMessage, if_neg (hcode _ (by decide)), if_neg (hcode _ (by decide)), if_neg (hcode _ (by decide)),
      if_pos (Or.inl rfl), hs]
    exact (succeeds_parseAuth hparse).bind fun a => Holds.pure fun _ ha => ⟨by rw [ha.1], ha.2⟩
  refine (succeeds_fastAuthExchange (List.cons_ne_nil _ _) hpackets (hfinal _)).bind fun e => Holds.assume ?_
  rintro rfl
  dsimp only
  rw [if_neg (not_not.mpr hauth.phase)]
  refine (succeeds_authenticatePhaseTwo h hauth hpackets').bind fun auth' => Holds.assume fun hdone => ?_
  exact (succeeds_finishAuthentication hdone.1 hdone.2).bind fun _ => Holds.pure fun _ h => ⟨rfl, h⟩

/-- The server asks to negotiate again. -/
lemma succeeds_authenticateWithFastAuth_renegotiate {flags : UInt8 × UInt8} {messages : List Negotiation}
    {tail : Bytes} {packets : List Bytes}
    (hpackets : Carries true (fastAnswer flags messages (messageTypeRenegotiate :: tail)) packets) :
    Succeeds (Facing true (packets.flatten ++ rest) Anything) (login.authenticateWithFastAuth crypto draws)
      (fun done inner => done = false ∧ Facing true rest Anything inner) := by
  have hcode (c : UInt8) (hc : messageTypeRenegotiate ≠ c) : ¬ messageTypeRenegotiate = c := hc
  have hfinal (s : FastAuthState) (hs : s.1.rest = messageTypeRenegotiate :: tail) :
      Succeeds (Facing true rest Anything) (login.fastAuthTurn crypto draws [flags.1, flags.2] s)
        (fun r inner => r = .inr .renegotiate ∧ Facing true rest Anything inner) := by
    unfold fastAuthTurn
    rw [hs]
    dsimp only
    rw [fastAuthMessage, if_neg (hcode _ (by decide)), if_neg (hcode _ (by decide)), if_pos rfl]
    exact Holds.pure fun _ h => ⟨rfl, h⟩
  refine (succeeds_fastAuthExchange (List.cons_ne_nil _ _) hpackets hfinal).bind fun e => Holds.assume ?_
  rintro rfl
  exact Holds.pure fun _ h => ⟨rfl, h⟩

end Fast

/-! ## The handshake -/

section Served

variable (crypto : Crypto) (login : Login) (challenge : Challenge) (combo rest : Bytes)

/-- The packets of an authentication in two phases. -/
inductive AuthenticatedBy (draws : Draws) : Bytes → Prop
  | intro {first second : List (String × String × UInt32)} {flags flags' : UInt8 × UInt8} {t : PacketType}
      {packet : Bytes} {packets : List Bytes} (hfirst : IsPacket true t (pairsPayload flags first) packet)
      (hsecond : Carries true (pairsPayload flags' second) packets)
      (hauth : Authenticates crypto login draws challenge first second combo) :
      AuthenticatedBy draws (packet ++ (packets.flatten ++ rest))

/-- The packets behind ACCEPT and the check of out-of-band data. -/
inductive Continues (draws fast : Draws) (hasFastAuth : Prop) : Bytes → Prop
  /-- one message after the other -/
  | slow (hfast : ¬ hasFastAuth) (m : ServerProtocol) {flags : UInt8 × UInt8} {tail payload packet packet' bytes : Bytes}
      (hprotocol : IsPacket true .data ([flags.1, flags.2] ++ (m.encode ++ tail)) packet)
      (htypes : IsPacket true .data payload packet')
      (hauth : AuthenticatedBy crypto login challenge combo rest draws bytes) :
      Continues draws fast hasFastAuth (packet ++ (packet' ++ bytes))
  /-- the fast path -/
  | fast (hfast : hasFastAuth) {flags flags' : UInt8 × UInt8} {messages : List Negotiation}
      {first second : List (String × String × UInt32)} {packets packets' : List Bytes}
      (hfirst : Carries true (fastAnswer flags messages (pairsMessage first)) packets)
      (hsecond : Carries true (pairsPayload flags' second) packets')
      (hauth : Authenticates crypto login fast challenge first second combo) :
      Continues draws fast hasFastAuth (packets.flatten ++ (packets'.flatten ++ rest))
  /-- the fast path is given up -/
  | again (hfast : hasFastAuth) {flags : UInt8 × UInt8} {messages : List Negotiation} {tail payload packet bytes : Bytes}
      {packets : List Bytes}
      (hanswer : Carries true (fastAnswer flags messages (messageTypeRenegotiate :: tail)) packets)
      (htypes : IsPacket true .data payload packet)
      (hauth : AuthenticatedBy crypto login challenge combo rest draws bytes) :
      Continues draws fast hasFastAuth (packets.flatten ++ (packet ++ bytes))

/-- The answer to the check of out-of-band data, if both sides have them. -/
def OobAnswered (m : ServerAccept) (packet : Bytes) : Prop :=
  (m.hasOob → ∃ t payload, IsPacket true t payload packet) ∧ (¬ m.hasOob → packet = [])

/-- The packets of an honest server: it may ask for CONNECT again. -/
inductive Served (draws fast : Draws) : Bytes → Prop
  | intro (m : ServerAccept) {resends : List Bytes} {packet packet' bytes : Bytes}
      (hresends : ∀ p ∈ resends, ∃ payload, IsPacket false .resend payload p)
      (hlength : resends.length ≤ maxResends) (haccept : IsPacket false .accept m.encode packet)
      (hoob : OobAnswered m packet')
      (hbytes : Continues crypto login challenge combo rest draws fast m.hasFastAuth bytes) :
      Served draws fast (resends.flatten ++ (packet ++ (packet' ++ bytes)))

end Served

section Completes

variable {crypto : Crypto} {login : Login} {draws fast : Draws} {challenge : Challenge} {combo rest : Bytes}

lemma succeeds_authenticated (hcrypto : crypto.Lawful) (hdraws : Sized draws) (hlogin : Fits login) {bytes : Bytes}
    (h : AuthenticatedBy crypto login challenge combo rest draws bytes) :
    Succeeds (Facing true bytes Anything) (authenticate crypto login draws)
      (fun _ => LoggedIn crypto login challenge combo rest) := by
  obtain ⟨hfirst, hsecond, hauth⟩ := h
  exact succeeds_authenticate hcrypto hdraws hlogin hauth hfirst hsecond

/-- The check of out-of-band data is made if it is answered. -/
lemma succeeds_oob (m : ServerAccept) {packet bytes : Bytes} (hoob : OobAnswered m packet) {serverInfo : ServerInfo}
    (hinfo : serverInfo.protocolVersion ≥ minOobCheck ∧ serverInfo.supportsOob = true ↔ m.hasOob)
    {C : Capabilities → Prop} :
    Succeeds (Facing true (packet ++ bytes) fun _ caps => C caps)
      (if serverInfo.protocolVersion ≥ minOobCheck ∧ serverInfo.supportsOob then sendOobCheck else pure ())
      (fun _ => Facing true bytes fun _ caps => C caps) := by
  refine Holds.ite (fun h => ?_) fun h => ?_
  · obtain ⟨t, payload, hpacket⟩ := hoob.1 (hinfo.mp h)
    exact succeeds_sendOobCheck hpacket
  · obtain rfl := hoob.2 (mt hinfo.mpr h)
    exact Holds.pure fun _ h => h

/-- The login of a user. -/
def scott : Login where
  connect := { (default : ConnectMessage) with connectData := "(DESCRIPTION=)" }
  client := Challenge.scott
  password := asBytes "tiger"

/-- Numbers that are not random. -/
def sevens : Draws := ⟨fun n => List.replicate n 7, List.replicate 16 1, List.replicate 16 2⟩

/-- A server with the fast path. -/
def fastAccept : ServerAccept where
  protocolVersion := 319
  serviceOptions := 0
  sdu16 := 8192
  tdu16 := 65535
  byteOrder := 1
  dataLength := 0
  dataOffset := 0
  flags := 0
  flags1 := 0
  reserved := List.replicate 8 0
  sdu := 8192
  reserved' := List.replicate 5 0
  flags2 := acceptFastAuth
  tail := []
  minAccepted_le := by decide
  flags_eq := rfl
  length_reserved := rfl
  length_reserved' := rfl

/-- The key upon which the user and the server agree. -/
def combo12c : Bytes :=
  (Challenge.challenge12c.comboKey Crypto.lawfulCrypto (List.replicate 32 7)).toOption.getD []

/-- The proof of the server. -/
def proof12c : List (String × String × UInt32) :=
  [("AUTH_SVR_RESPONSE", Crypto.lawfulCrypto.hexEncodeUpper (Challenge.challenge12c.encrypt Crypto.lawfulCrypto
    combo12c (List.replicate 16 0 ++ asBytes "SERVER_TO_CLIENT")), 0)]

/-- The pairs of the challenge. -/
def challengePairs : List (String × String × UInt32) :=
  Challenge.challenge12c.pairs Crypto.lawfulCrypto (asBytes "tiger")

/-- A packet around a payload. -/
def packetOf (largeSdu : Bool) (t : PacketType) (payload : Bytes) : Bytes :=
  packetHeader largeSdu t (packetHeaderSize + payload.length) ++ payload

/-- What the server sends to the user. -/
def fastIncoming : Bytes :=
  packetOf false .accept fastAccept.encode ++
    (packetOf true .data (fastAnswer (0x20, 0) [] (pairsMessage challengePairs)) ++
      packetOf true .data (pairsPayload (0x20, 0) proof12c))

lemma comboKey_challenge12c : Challenge.challenge12c.comboKey Crypto.lawfulCrypto (List.replicate 32 7) =
    .ok combo12c ∧ combo12c.length = Challenge.challenge12c.keyLen := by
  have hlegal : Challenge.challenge12c.Legal := ⟨.inl rfl, ⟨by decide, by decide⟩, by decide⟩
  obtain ⟨key, hkey, hlen⟩ := Challenge.exists_comboKey Crypto.lawful_lawfulCrypto hlegal
    (List.length_replicate : (List.replicate 32 (7 : UInt8)).length = 32)
  have hcombo : combo12c = key := by
    rw [combo12c, hkey]
    rfl
  rw [hcombo]
  exact ⟨hkey, hlen⟩

/-- The server authenticates the user. -/
lemma authenticates_scott : Authenticates Crypto.lawfulCrypto scott sevens Challenge.challenge12c challengePairs
    proof12c combo12c where
  legal := ⟨.inl rfl, ⟨by decide, by decide⟩, by decide⟩
  writable := by
    refine ⟨by decide, fun pair hpair => ?_⟩
    simp only [challengePairs, Challenge.pairs, List.mem_cons, List.not_mem_nil, or_false] at hpair
    obtain rfl | rfl | rfl | rfl | rfl := hpair
    · exact Challenge.valueKept_hex Crypto.lawful_lawfulCrypto (by decide)
    · exact Challenge.valueKept_hex Crypto.lawful_lawfulCrypto (by decide)
    · exact Challenge.valueKept_hex Crypto.lawful_lawfulCrypto (by decide)
    · exact .inr (by decide)
    · exact .inr (by decide)
  sentIn := Challenge.sentIn_challenge12c _
  comboKey := comboKey_challenge12c.1
  writable' := by
    refine ⟨by decide, fun pair hpair => ?_⟩
    obtain rfl := List.mem_singleton.mp hpair
    exact Challenge.valueKept_hex Crypto.lawful_lawfulCrypto (by decide +kernel)
  proved := by
    have hblocks : Crypto.FullBlocks (List.replicate 16 0 ++ asBytes "SERVER_TO_CLIENT") := ⟨by decide, by decide⟩
    have hcrypto := Crypto.lawful_lawfulCrypto
    refine ⟨_, _, ⟨by simp [proof12c], by simp [proof12c], 0, List.mem_singleton.mpr rfl⟩,
      hcrypto.decode_encode _, Challenge.fullBlocks_encrypt hcrypto comboKey_challenge12c.2 hblocks, ?_⟩
    rw [Challenge.decrypt_encrypt hcrypto comboKey_challenge12c.2 hblocks]
    exact ⟨by decide, by decide⟩

/-- The server keeps to the protocol. -/
lemma served_fastIncoming : Served Crypto.lawfulCrypto scott Challenge.challenge12c combo12c [] sevens sevens
    fastIncoming := by
  have hfast : fastAccept.hasFastAuth := ⟨by decide, by decide⟩
  have hnoOob : ¬ fastAccept.hasOob := fun h => h.2 (by decide)
  have hfirst : Carries true (fastAnswer (0x20, 0) [] (pairsMessage challengePairs))
      [packetOf true .data (fastAnswer (0x20, 0) [] (pairsMessage challengePairs))] :=
    carries_single (isPacket_packetHeader .data (by decide +kernel)) (by decide +kernel) (by decide +kernel)
  have hsecond : Carries true (pairsPayload (0x20, 0) proof12c)
      [packetOf true .data (pairsPayload (0x20, 0) proof12c)] :=
    carries_single (isPacket_packetHeader .data (by decide +kernel)) (by decide +kernel) (by decide +kernel)
  have hbytes : Continues Crypto.lawfulCrypto scott Challenge.challenge12c combo12c [] sevens sevens
      fastAccept.hasFastAuth _ := .fast hfast hfirst hsecond authenticates_scott
  have hnone : ∀ p ∈ ([] : List Bytes), ∃ payload, IsPacket false .resend payload p := nofun
  have hserved := Served.intro fastAccept hnone (Nat.zero_le _)
    (isPacket_packetHeader .accept (by decide +kernel)) ⟨fun h => absurd h hnoOob, fun _ => rfl⟩ hbytes
  simpa [fastIncoming, packetOf] using hserved

end Completes

end Login

end OracleRs
