import OracleRs.Connection.Handshake
import OracleRs.Lib.Emission
import OracleRs.Messages.RequestLength

set_option relaxedAutoImplicit false
set_option autoImplicit false

/-!
# What a handshake sends

The order of the messages of a handshake, against a server that sends anything at all: the language of the
client's side of a handshake, of which every run sends a word, or the beginning of a word if it fails.
The password is in the last message only, and that is sent behind a challenge only.

## Main definitions

* `OracleRs.Login.Open` — the invariant of a handshake that is going on.
* `OracleRs.Login.conversation` — the language.
* `OracleRs.Login.Established` — the connection is ready, and the server has passed the check.

## Main results

* `OracleRs.Login.emits_performHandshake` — every handshake sends a word of the language, or the beginning
  of one.
-/

namespace OracleRs

open Emission (Emits)

namespace Login

open HandshakeInner

/-- A handshake that is going on: the connection is not ready, and lengths are written in one of both ways. -/
def Open (largeSdu : Bool) (inner : HandshakeInner) : Prop :=
  inner.largeSdu = largeSdu ∧ inner.state ≠ .ready

/-- A handshake that has failed does not leave a connection that is ready. -/
def Failed (_ : ConnectError) (inner : HandshakeInner) : Prop := inner.state ≠ .ready

/-- Nothing is emitted, and the handshake goes on. -/
abbrev Quiet {α : Type} (largeSdu : Bool) (m : HandshakeM α) : Prop :=
  Emits sent (Open largeSdu) m 1 (fun _ => Open largeSdu) Failed

/-! ## The language -/

/-- The packets of a connect message. -/
def connectPackets (packets : Bytes × Option Bytes) : List Bytes := packets.1 :: packets.2.toList

/-- The packets again, for so many times at most. -/
def resent (packets : Bytes × Option Bytes) (n : ℕ) : Language Bytes :=
  {w | ∃ k ≤ n, w = (List.replicate k (connectPackets packets)).flatten}

/-- CONNECT. -/
def connects (connect : ConnectMessage) : Language Bytes :=
  {w | ∃ packets, connect.buildWithContinuation = .ok packets ∧
    ∃ k ≤ maxResends + 1, 0 < k ∧ w = (List.replicate k (connectPackets packets)).flatten}

/-- The check of out-of-band data. -/
def oobCheck : Language Bytes := {[[0x21], resetMarker true]}

/-- A message, whatever the capabilities are. -/
def dataMessage (message : Capabilities → Bytes) : Language Bytes :=
  {w | ∃ caps, w = [dataRequest true (message caps)]}

/-- A request of the second phase: it answers a challenge. -/
def Answers (crypto : Crypto) (login : Login) (draws : Draws) (auth : AuthMessage) (request : Bytes) : Prop :=
  (∃ challenge, AuthMessage.parseResponse crypto draws.random challenge login.newAuth = .ok () auth) ∧
    ∃ caps, login.client.buildRequest crypto caps true draws.passwordSalt draws.speedySalt auth = .ok request

/-- The second phase. -/
def phaseTwo (crypto : Crypto) (login : Login) (draws : Draws) : Language Bytes :=
  {w | ∃ auth request, Answers crypto login draws auth request ∧ w = [request]}

/-- The negotiation of the data types and the authentication, which may break off between its phases. -/
def negotiated (crypto : Crypto) (login : Login) (draws : Draws) : Language Bytes :=
  dataMessage DataTypesMessage.request *
    (dataMessage login.client.phaseOneMessage * (1 + phaseTwo crypto login draws))

/-- The client's side of a handshake. -/
def conversation (crypto : Crypto) (login : Login) (draws fast : Draws) : Language Bytes :=
  connects login.connect * ((1 + oobCheck) *
    (dataMessage login.fastAuthBytes * (1 + phaseTwo crypto login fast + negotiated crypto login draws) +
      dataMessage (fun _ => ProtocolMessage.request) * negotiated crypto login draws))

/-- The connection is ready: the last message is the answer to a challenge, and the server's response to it has
been accepted; the keys agreed upon are those of that exchange. -/
structure Established (crypto : Crypto) (login : Login) (draws : Draws) (inner : HandshakeInner) : Prop where
  /-- the state -/
  state : inner.state = .ready
  /-- lengths are written in four bytes -/
  largeSdu : inner.largeSdu = true
  /-- the next message has the number behind this one -/
  sequenceNumber : inner.sequenceNumber = 2
  /-- the exchange -/
  exchange : ∃ auth auth' request response, Answers crypto login draws auth request ∧
    inner.sent.getLast? = some request ∧
    AuthMessage.parseResponse crypto draws.random response auth = .ok () auth' ∧
    AuthMessage.verifyServerResponse crypto auth' = .ok () ∧
    auth'.comboKey.isSome ∧ inner.capabilities.comboKey = auth'.comboKey

/-! ## The verifier -/

section Verifier

open Triple
open AuthMessage (AuthM)

variable {crypto : Crypto} {random : ℕ → Bytes} {α : Type} {P : AuthMessage → Prop}

/-- Waiting for the second phase, with a combo key. -/
def Keyed (auth : AuthMessage) : Prop := auth.phase = .two ∧ auth.comboKey.isSome

lemma holds_lift (r : Except Error α) : Holds P (AuthMessage.lift r) (fun _ => P) fun _ => True := by
  cases r with
  | ok a => exact Holds.pure fun _ h => h
  | error e => exact Holds.throw trivial

lemma holds_require (value : Option α) (e : Error) :
    Holds P (AuthMessage.require value e) (fun _ => P) fun _ => True := by
  cases value with
  | some a => exact Holds.pure fun _ h => h
  | none => exact Holds.throw trivial

lemma holds_decodeHex (what s : String) :
    Holds P (AuthMessage.decodeHex crypto what s) (fun _ => P) fun _ => True := by
  unfold AuthMessage.decodeHex
  cases crypto.hexDecode s with
  | ok b => exact Holds.pure fun _ h => h
  | error e => exact Holds.throw trivial

/-- A verifier that is generated has a combo key. -/
lemma holds_generateVerifier :
    Holds (fun auth => auth.phase = .two) (AuthMessage.generateVerifier crypto random) (fun _ => Keyed)
      fun _ => True := by
  have hget : Holds (fun auth : AuthMessage => auth.phase = .two) (get : AuthM AuthMessage)
      (fun _ auth => auth.phase = .two) fun _ => True := Holds.get fun _ h => h
  have hset (key : Bytes) : Holds (fun auth : AuthMessage => auth.phase = .two)
      (modify ({ · with clientSessionKey := some key }) : AuthM Unit) (fun _ auth => auth.phase = .two)
      fun _ => True := Holds.modify fun _ h => h
  have hcombo (key : Bytes) : Holds (fun auth : AuthMessage => auth.phase = .two)
      (modify ({ · with comboKey := some key }) : AuthM Unit) (fun _ => Keyed) fun _ => True :=
    Holds.modify fun _ h => ⟨h, rfl⟩
  refine hget.bind fun msg => (holds_require _ _).bind fun vfrData => ?_
  refine (holds_decodeHex _ _).bind fun vfrBytes => (holds_require _ _).bind fun serverKey => ?_
  refine (holds_decodeHex _ _).bind fun key => Holds.ite (fun _ => ?_) fun _ => Holds.ite (fun _ => ?_) fun _ => ?_
  · refine hget.bind fun msg => (holds_require _ _).bind fun _ => (holds_lift _).bind fun _ => ?_
    refine (holds_lift _).bind fun key => (hset key).bind fun _ => (holds_require _ _).bind fun _ => ?_
    refine (holds_decodeHex _ _).bind fun _ => (holds_require _ _).bind fun _ => ?_
    exact (holds_lift _).bind fun key => hcombo key
  · refine hget.bind fun msg => (holds_lift _).bind fun _ => (holds_lift _).bind fun key => ?_
    exact (hset key).bind fun _ => (holds_lift _).bind fun key => hcombo key
  · exact Holds.throw trivial

/-- So has an authentication whose first response has been accepted. -/
lemma keyed_of_parseResponse {payload : Bytes} {auth auth' : AuthMessage} (hphase : auth.phase = .one)
    (h : AuthMessage.parseResponse crypto random payload auth = .ok () auth') : Keyed auth' := by
  cases hread : readPairs.runOn payload with
  | error e =>
    rw [AuthMessage.parseResponse_of_error crypto random hread] at h
    cases h
  | ok pairs =>
    rw [AuthMessage.parseResponse_of_one crypto random hread hphase] at h
    exact holds_generateVerifier.of_ok rfl h

/-- The second response is accepted if it passes the check; the keys are kept. -/
lemma verified_of_parseResponse {payload : Bytes} {auth auth' : AuthMessage} (hkeyed : Keyed auth)
    (h : AuthMessage.parseResponse crypto random payload auth = .ok () auth') :
    AuthMessage.verifyServerResponse crypto auth' = .ok () ∧ auth'.comboKey.isSome := by
  cases hread : readPairs.runOn payload with
  | error e =>
    rw [AuthMessage.parseResponse_of_error crypto random hread] at h
    cases h
  | ok pairs =>
    rw [AuthMessage.parseResponse_of_two crypto random hread hkeyed.1] at h
    cases hverify : AuthMessage.verifyServerResponse crypto (auth.received pairs) with
    | error e =>
      rw [hverify] at h
      cases h
    | ok u =>
      rw [hverify] at h
      cases h
      exact ⟨hverify, hkeyed.2⟩

end Verifier

/-! ## The transport -/

section Transport

variable {largeSdu : Bool} {α : Type} {L : Language Bytes} {P : HandshakeInner → Prop}

lemma emits_fail {e : Error} (hL : ∃ w, w ∈ L) {Q : α → HandshakeInner → Prop} (hP : ∀ inner, P inner → inner.state ≠ .ready) :
    Emits sent P (fail e : HandshakeM α) L Q Failed := Emits.throw hL hP

lemma quiet_fail {e : Error} : Quiet largeSdu (fail e : HandshakeM α) :=
  emits_fail ⟨[], Language.nil_mem_one⟩ fun _ h => h.2

lemma quiet_throw {e : ConnectError} : Quiet largeSdu (throw e : HandshakeM α) :=
  Emits.throw ⟨[], Language.nil_mem_one⟩ fun _ h => h.2

/-- A computation that may fail, with what its success says. -/
lemma emits_ofExcept (r : Except Error α) (hP : ∀ inner, P inner → inner.state ≠ .ready) :
    Emits sent P (ofExcept r) 1 (fun a inner => r = .ok a ∧ P inner) Failed := by
  cases r with
  | ok a => exact Emits.pure fun _ h => ⟨rfl, h⟩
  | error e => exact emits_fail ⟨[], Language.nil_mem_one⟩ hP

lemma quiet_ofExcept (r : Except Error α) : Quiet largeSdu (ofExcept r) :=
  (emits_ofExcept r fun _ h => h.2).weaken fun _ _ h => h.2

lemma emits_send (data : Bytes) :
    Emits sent (Open largeSdu) (send data) {[data]}
      (fun _ inner => Open largeSdu inner ∧ inner.sent.getLast? = some data) Failed := by
  refine ⟨⟨[data], rfl⟩, fun inner h => ?_⟩
  show Emission.Ends _ _ _ _ _ ((if inner.writes inner.sent.length then
    (modify fun inner => { inner with sent := inner.sent ++ [data] }) else fail .io : HandshakeM Unit) inner)
  split_ifs
  · exact ⟨⟨[data], rfl, rfl⟩, h, List.getLast?_concat⟩
  · exact ⟨⟨[], [data], rfl, (List.append_nil _).symm⟩, h.2⟩

/-- The state is read. -/
lemma emits_get {f : HandshakeInner → HandshakeM α} {Q : α → HandshakeInner → Prop} (hL : ∃ w, w ∈ L)
    (h : ∀ inner, Emits sent (Open largeSdu) (f inner) L Q Failed) :
    Emits sent (Open largeSdu) (get >>= f) L Q Failed :=
  Emits.get hL fun inner hinner => (h inner).strengthen fun _ heq => heq ▸ hinner

lemma quiet_get {f : HandshakeInner → HandshakeM α} (h : ∀ inner, Quiet largeSdu (f inner)) :
    Quiet largeSdu (get >>= f) := emits_get ⟨[], Language.nil_mem_one⟩ h

lemma quiet_readExact (n : ℕ) : Quiet largeSdu (readExact n) := by
  refine quiet_get fun inner => Emits.ite (fun _ => ?_) fun _ => ?_
  · exact Emits.then_quiet (Emits.modify (Q := fun _ => Open largeSdu) (fun _ => rfl) fun _ h => h)
      fun _ => Emits.pure fun _ h => h
  · have hclosed : ConnectionState.closed ≠ .ready := nofun
    exact Emits.then_quiet (Emits.modify (Q := fun _ inner => inner.state ≠ .ready) (fun _ => rfl)
      fun _ _ => hclosed) fun _ => emits_fail ⟨[], Language.nil_mem_one⟩ fun _ h => h

lemma quiet_receive : Quiet largeSdu receive := by
  refine (quiet_readExact _).then_quiet fun header => ?_
  refine quiet_get fun inner => Emits.ite (fun _ => ?_) fun _ => Emits.pure fun _ h => h
  exact (quiet_readExact _).then_quiet fun _ => Emits.pure fun _ h => h

lemma quiet_receiveResponseTurn (s : Accum) : Quiet largeSdu (receiveResponseTurn s) := by
  refine quiet_receive.then_quiet fun packet => ?_
  cases receiveTurn s packet with
  | inl s' => exact Emits.pure fun _ h => h
  | inr r => exact (quiet_ofExcept r).then_quiet fun _ => Emits.pure fun _ h => h

lemma quiet_receiveResponse : Quiet largeSdu HandshakeInner.receiveResponse := by
  have hloop (n : ℕ) (s : Accum) :
      Quiet largeSdu (Built.repeated (.of .stuck) receiveResponseTurn n s) := by
    induction n generalizing s with
    | zero => exact quiet_throw
    | succ n ih =>
      refine (quiet_receiveResponseTurn s).then_quiet fun r => ?_
      cases r with
      | inl s' => exact ih s'
      | inr r => exact Emits.pure fun _ h => h
  refine quiet_get fun inner => (hloop _ _).then_quiet fun received => ?_
  exact quiet_get fun inner => Emits.pure fun _ h => h

end Transport

/-! ## CONNECT and ACCEPT -/

section Connect

variable {largeSdu : Bool} {packets : Bytes × Option Bytes}

lemma emits_sendConnect :
    Emits sent (Open largeSdu) (sendConnect packets) {connectPackets packets} (fun _ => Open largeSdu) Failed := by
  have hsend (data : Bytes) :
      Emits sent (Open largeSdu) (send data) {[data]} (fun _ => Open largeSdu) Failed :=
    (emits_send data).weaken fun _ _ h => h.1
  obtain ⟨connect, data | data⟩ := packets
  · exact (hsend connect).then_quiet fun _ => Emits.pure fun _ h => h
  · refine ((hsend connect).bind fun _ => hsend data).mono ?_
    rintro _ ⟨_, rfl, _, rfl, rfl⟩
    exact rfl

/-- An ACCEPT packet that is parsed is one with long lengths. -/
lemma emits_acceptPacket (response : Bytes) :
    Emits sent (Open largeSdu) (acceptPacket response) 1 (fun _ => Open true) Failed := by
  refine (quiet_ofExcept _).then_quiet fun packet => ?_
  refine (emits_ofExcept _ fun _ h => h.2).then_quiet fun accept => ?_
  refine Emits.assume ⟨[], Language.nil_mem_one⟩ fun hparse => ?_
  have hconnected : ConnectionState.connected ≠ .ready := nofun
  exact Emits.modify (fun _ => rfl) fun _ _ => ⟨(AcceptMessage.sdu_of_parse hparse).2, hconnected⟩

/-- The handshake goes on with long lengths behind ACCEPT, and as before otherwise. -/
lemma emits_connectTurn : Emits sent (Open largeSdu) connectTurn 1
    (fun accepted => Open (if accepted then true else largeSdu)) Failed := by
  refine quiet_receive.then_quiet fun response => ?_
  have hfail {α : Type} {e : ConnectError} {Q : α → HandshakeInner → Prop} :
      Emits sent (Open largeSdu) (throw e : HandshakeM α) 1 Q Failed :=
    Emits.throw ⟨[], Language.nil_mem_one⟩ fun _ h => h.2
  refine Emits.ite (fun _ => hfail) fun _ => Emits.ite (fun _ => ?_) fun _ => Emits.ite (fun _ => ?_) fun _ => ?_
  · exact (emits_acceptPacket response).then_quiet fun _ => Emits.pure fun _ h => h
  · exact (quiet_ofExcept _).then_quiet fun _ => hfail
  · exact Emits.ite (fun _ => hfail) fun _ => Emits.ite (fun _ => Emits.pure fun _ h => h) fun _ => hfail

lemma nil_mem_resent (n : ℕ) : [] ∈ resent packets n := ⟨0, Nat.zero_le n, rfl⟩

/-- Once, and then again. -/
lemma resent_succ (n : ℕ) :
    ∀ w ∈ ({connectPackets packets} : Language Bytes) * resent packets n, w ∈ resent packets (n + 1) := by
  rintro _ ⟨_, rfl, _, ⟨k, hk, rfl⟩, rfl⟩
  exact ⟨k + 1, by omega, by simp [List.replicate_succ]⟩

lemma emits_awaitAccept (n : ℕ) : Emits sent (Open largeSdu) (awaitAccept packets n) (resent packets n)
    (fun _ => Open true) Failed := by
  have hpure : Emits sent (Open true) (pure () : HandshakeM Unit) 1 (fun _ => Open true) Failed :=
    Emits.pure fun _ h => h
  have hdone (n : ℕ) : Emits sent (Open true) (pure () : HandshakeM Unit) (resent packets n)
      (fun _ => Open true) Failed :=
    hpure.mono fun w hw => (Language.mem_one w).mp hw ▸ nil_mem_resent n
  induction n with
  | zero =>
    refine emits_connectTurn.bind_quiet fun accepted => ?_
    cases accepted with
    | true => exact hdone 0
    | false => exact emits_fail ⟨[], nil_mem_resent 0⟩ fun _ h => h.2
  | succ n ih =>
    refine emits_connectTurn.bind_quiet fun accepted => ?_
    cases accepted with
    | true => exact hdone (n + 1)
    | false => exact (emits_sendConnect.bind fun _ => ih).mono (resent_succ n)

lemma emits_sendConnectPacket (connect : ConnectMessage) :
    Emits sent (Open largeSdu) (sendConnectPacket connect) (connects connect) (fun _ => Open true) Failed := by
  obtain ⟨packets, hbuild⟩ : ∃ packets, connect.buildWithContinuation = .ok packets :=
    ⟨_, connect.buildWithContinuation_eq⟩
  rw [sendConnectPacket, hbuild]
  show Emits sent _ (sendConnect packets >>= fun _ => awaitAccept packets maxResends) _ _ _
  refine (emits_sendConnect.bind fun _ => emits_awaitAccept maxResends).mono ?_
  rintro _ ⟨_, rfl, _, ⟨k, hk, rfl⟩, rfl⟩
  exact ⟨packets, hbuild, k + 1, by omega, by omega, by simp [List.replicate_succ]⟩

end Connect

/-! ## Negotiation -/

section Negotiation

/-- A request that depends on the state, and what comes behind it. -/
lemma emits_request {α : Type} {inner : HandshakeInner} (hinner : Open true inner) {f : Unit → HandshakeM α}
    {Q : α → HandshakeInner → Prop} {data : Bytes} {L : Language Bytes} (hL : [data] ∈ L)
    (hf : Emits sent (Open true) (f ()) 1 Q Failed) :
    Emits sent (fun s => s = inner) (send data >>= f) L Q Failed := by
  have hsend : Emits sent (Open true) (send data) {[data]} (fun _ => Open true) Failed :=
    (emits_send data).weaken fun _ _ h => h.1
  refine ((hsend.then_quiet fun _ => hf).mono ?_).strengthen fun s hs => hs ▸ hinner
  rintro _ rfl
  exact hL

/-- A message with the capabilities. -/
lemma mem_dataMessage (message : Capabilities → Bytes) (caps : Capabilities) :
    [dataRequest true (message caps)] ∈ dataMessage message := ⟨caps, rfl⟩

lemma emits_sendOobCheck :
    Emits sent (Open true) sendOobCheck oobCheck (fun _ => Open true) Failed := by
  have hsend : Emits sent (Open true) (send [0x21]) {[[0x21]]} (fun _ => Open true) Failed :=
    (emits_send [0x21]).weaken fun _ _ h => h.1
  have hmarker : Emits sent (Open true) (do send (resetMarker (← get).largeSdu); let _ ← receive)
      {[resetMarker true]} (fun _ => Open true) Failed := by
    refine Emits.get ⟨_, rfl⟩ fun inner hinner => ?_
    rw [hinner.1]
    refine emits_request hinner rfl ?_
    exact quiet_receive.then_quiet fun _ => Emits.pure fun _ h => h
  refine (hsend.bind fun _ => hmarker).mono ?_
  rintro _ ⟨_, rfl, _, rfl, rfl⟩
  exact rfl

lemma quiet_setBanner (message : ProtocolMessage) : Quiet true (setBanner message) :=
  Emits.modify (fun _ => rfl) fun _ h => h

/-- The capabilities change, nothing else that matters. -/
lemma quiet_parseProtocol (m : EStateM Error (ProtocolMessage × Capabilities) Unit) :
    Quiet true (parseProtocol m) := by
  refine Emits.get ⟨[], Language.nil_mem_one⟩ fun inner hinner => ?_
  cases m ({}, inner.capabilities) with
  | ok u r =>
    exact Emits.then_quiet (Emits.set (Q := fun _ => Open true) fun s hs => ⟨hs ▸ rfl, hinner⟩)
      fun _ => Emits.pure fun _ h => h
  | error e r =>
    exact Emits.then_quiet (Emits.set (Q := fun _ => Open true) fun s hs => ⟨hs ▸ rfl, hinner⟩)
      fun _ => quiet_fail

lemma emits_negotiateProtocol : Emits sent (Open true) negotiateProtocol
    (dataMessage fun _ => ProtocolMessage.request) (fun _ => Open true) Failed := by
  refine Emits.get ⟨_, mem_dataMessage _ default⟩ fun inner hinner => ?_
  rw [hinner.1, ProtocolMessage.buildRequest_eq]
  refine emits_request hinner (mem_dataMessage _ default) ?_
  refine quiet_receive.then_quiet fun response => Emits.ite (fun _ => quiet_fail) fun _ => ?_
  refine (quiet_parseProtocol _).then_quiet fun message => (quiet_setBanner message).then_quiet fun _ => ?_
  have hnegotiated : ConnectionState.protocolNegotiated ≠ .ready := nofun
  exact Emits.modify (fun _ => rfl) fun _ h => ⟨h.1, hnegotiated⟩

lemma emits_negotiateDataTypes : Emits sent (Open true) negotiateDataTypes
    (dataMessage DataTypesMessage.request) (fun _ => Open true) Failed := by
  refine Emits.get ⟨_, mem_dataMessage _ default⟩ fun inner hinner => ?_
  rw [hinner.1, DataTypesMessage.buildRequest_eq]
  refine emits_request hinner (mem_dataMessage _ inner.capabilities) ?_
  refine quiet_receive.then_quiet fun response => Emits.ite (fun _ => ?_) fun _ => quiet_fail
  have hnegotiated : ConnectionState.dataTypesNegotiated ≠ .ready := nofun
  exact Emits.modify (fun _ => rfl) fun _ h => ⟨h.1, hnegotiated⟩

end Negotiation

/-! ## Authentication -/

section Authentication

variable {crypto : Crypto} {login : Login} {draws : Draws}

/-- The authentication in which the client has answered a challenge: the answer is the last message. -/
def Answered (crypto : Crypto) (login : Login) (draws : Draws) (auth : AuthMessage) (sent : List Bytes) : Prop :=
  ∃ request, Answers crypto login draws auth request ∧ sent.getLast? = some request

lemma emits_parseAuth {P : HandshakeInner → Prop} (hP : ∀ inner, P inner → inner.state ≠ .ready)
    (payload : Bytes) (auth : AuthMessage) :
    Emits sent P (parseAuth crypto draws payload auth) 1
      (fun auth' inner => AuthMessage.parseResponse crypto draws.random payload auth = .ok () auth' ∧ P inner)
      Failed := by
  unfold parseAuth
  cases AuthMessage.parseResponse crypto draws.random payload auth with
  | ok u auth' => exact Emits.pure fun _ h => ⟨rfl, h⟩
  | error e auth' => exact emits_fail ⟨[], Language.nil_mem_one⟩ hP

/-- The request is one of the authentication, for the capabilities of the connection. -/
lemma emits_buildAuth (auth : AuthMessage) : Emits sent (Open true) (buildAuth crypto login draws auth) 1
    (fun request inner => (∃ caps, login.client.buildRequest crypto caps true draws.passwordSalt draws.speedySalt
      auth = .ok request) ∧ Open true inner) Failed := by
  refine Emits.get ⟨[], Language.nil_mem_one⟩ fun inner hinner => ?_
  rw [hinner.1]
  have hopen : ∀ s, s = inner → s.state ≠ .ready := fun s hs => hs ▸ hinner.2
  exact (emits_ofExcept _ hopen).weaken fun request _ h => ⟨⟨_, h.1⟩, h.2 ▸ hinner⟩

/-- Behind the second response. -/
def Exchanged (crypto : Crypto) (login : Login) (draws : Draws) (auth' : AuthMessage) (inner : HandshakeInner) :
    Prop :=
  Open true inner ∧ ∃ auth request response, Answers crypto login draws auth request ∧
    inner.sent.getLast? = some request ∧
    AuthMessage.parseResponse crypto draws.random response auth = .ok () auth' ∧ Keyed auth

lemma emits_authenticatePhaseTwo {auth : AuthMessage}
    (hauth : ∃ challenge, AuthMessage.parseResponse crypto draws.random challenge login.newAuth = .ok () auth) :
    Emits sent (Open true) (authenticatePhaseTwo crypto login draws auth) (1 + phaseTwo crypto login draws)
      (Exchanged crypto login draws) Failed := by
  have hkeyed : Keyed auth := hauth.elim fun _ h => keyed_of_parseResponse rfl h
  have hnil : [] ∈ (1 + phaseTwo crypto login draws) := Or.inl rfl
  have hnot : ¬ auth.phase ≠ .two := not_not.mpr hkeyed.1
  unfold authenticatePhaseTwo
  rw [if_neg hnot]
  refine (emits_buildAuth auth).bind_quiet fun request => Emits.assume ⟨_, hnil⟩ fun hbuild => ?_
  have hanswers : Answers crypto login draws auth request := ⟨hauth, hbuild⟩
  have hword : ({[request]} : Language Bytes) ≤ 1 + phaseTwo crypto login draws := by
    rintro _ rfl
    exact Or.inr ⟨auth, request, hanswers, rfl⟩
  refine ((emits_send request).then_quiet fun _ => ?_).mono hword
  -- what is received does not change what has been sent
  refine (quiet_receiveResponse.frame fun sent => sent.getLast? = some request).then_quiet fun response => ?_
  have hfail {e : ConnectError} : Emits sent (fun inner => Open true inner ∧ inner.sent.getLast? = some request)
      (throw e : HandshakeM AuthMessage) 1 (Exchanged crypto login draws) Failed :=
    Emits.throw ⟨[], Language.nil_mem_one⟩ fun _ h => h.1.2
  refine Emits.ite (fun _ => hfail) fun _ => Emits.ite (fun _ => hfail) fun _ => Emits.ite (fun _ => hfail) fun _ => ?_
  refine (emits_parseAuth (fun _ h => h.1.2) _ auth).weaken fun auth' inner h => ?_
  exact ⟨h.2.1, auth, request, _, hanswers, h.2.2, h.1, hkeyed⟩

/-- A connection is finished only if the exchange is. -/
lemma emits_finishAuthentication (auth' : AuthMessage) :
    Emits sent (Exchanged crypto login draws auth') (finishAuthentication auth') 1
      (fun _ => Established crypto login draws) Failed := by
  refine Emits.ite (fun _ => Emits.throw ⟨[], Language.nil_mem_one⟩ fun _ h => h.1.2) fun _ => ?_
  refine Emits.modify (fun _ => rfl) fun inner h => ?_
  obtain ⟨hopen, auth, request, response, hanswers, hlast, hparse, hkeyed⟩ := h
  obtain ⟨hverified, hcombo⟩ := verified_of_parseResponse hkeyed hparse
  obtain ⟨combo, hcombo'⟩ := Option.isSome_iff_exists.mp hcombo
  refine ⟨rfl, hopen.1, rfl, auth, auth', request, response, hanswers, hlast, hparse, hverified, hcombo, ?_⟩
  show (auth'.comboKey.orElse _) = _
  rw [hcombo']
  rfl

/-- The second phase. -/
lemma emits_secondPhase {auth : AuthMessage}
    (hauth : ∃ challenge, AuthMessage.parseResponse crypto draws.random challenge login.newAuth = .ok () auth) :
    Emits sent (Open true) (do finishAuthentication (← authenticatePhaseTwo crypto login draws auth))
      (1 + phaseTwo crypto login draws) (fun _ => Established crypto login draws) Failed :=
  (emits_authenticatePhaseTwo hauth).then_quiet emits_finishAuthentication

lemma emits_authenticate : Emits sent (Open true) (authenticate crypto login draws)
    (dataMessage login.client.phaseOneMessage * (1 + phaseTwo crypto login draws))
    (fun _ => Established crypto login draws) Failed := by
  have hnil : [] ∈ (1 + phaseTwo crypto login draws) := Or.inl rfl
  have hne : ∃ w, w ∈ dataMessage login.client.phaseOneMessage * (1 + phaseTwo crypto login draws) :=
    ⟨_, Language.mem_mul.mpr ⟨_, mem_dataMessage _ default, _, hnil, rfl⟩⟩
  refine (emits_buildAuth login.newAuth).bind_quiet fun request => Emits.assume hne ?_
  rintro ⟨caps, hbuild⟩
  obtain rfl : _ = request := Except.ok.inj ((login.client.buildPhaseOne_eq caps true).symm.trans hbuild)
  have hword : ({[dataRequest true (login.client.phaseOneMessage caps)]} : Language Bytes) ≤
      dataMessage login.client.phaseOneMessage := by
    rintro _ rfl
    exact mem_dataMessage _ caps
  have hfail {e : ConnectError} : Emits sent (Open true) (throw e : HandshakeM Unit)
      (1 + phaseTwo crypto login draws) (fun _ => Established crypto login draws) Failed :=
    Emits.throw ⟨_, hnil⟩ fun _ h => h.2
  refine (((emits_send _).weaken fun _ _ h => h.1).mono hword).bind fun _ => ?_
  refine quiet_receive.bind_quiet fun response => Emits.ite (fun _ => hfail) fun _ => Emits.ite (fun _ => hfail) fun _ => ?_
  refine (emits_parseAuth (fun _ h => h.2) _ _).bind_quiet fun auth => Emits.assume ⟨_, hnil⟩ fun hauth => ?_
  exact emits_secondPhase ⟨_, hauth⟩

end Authentication

/-! ## The handshake -/

section Fast

variable {crypto : Crypto} {login : Login} {draws fast : Draws}

/-- A response of the first phase is one that has been accepted. -/
def Sound (crypto : Crypto) (login : Login) (draws : Draws) (r : FastAuthEnd) : Prop :=
  ∀ auth, r = .authResponse auth →
    ∃ challenge, AuthMessage.parseResponse crypto draws.random challenge login.newAuth = .ok () auth

/-- What a turn of the loop says. -/
def TurnSound (crypto : Crypto) (login : Login) (draws : Draws) (r : FastAuthState ⊕ FastAuthEnd)
    (inner : HandshakeInner) : Prop := (∀ e, r = .inr e → Sound crypto login draws e) ∧ Open true inner

lemma quiet_fastAuthProtocol (s : FastAuthState) : Quiet true (fastAuthProtocol s) := by
  refine Emits.get ⟨[], Language.nil_mem_one⟩ fun inner hinner => ?_
  have hnegotiated : ConnectionState.protocolNegotiated ≠ .ready := nofun
  cases ProtocolMessage.parseMessage (s.1, s.2, inner.capabilities) with
  | ok u r =>
    obtain ⟨buf, message, caps⟩ := r
    refine Emits.then_quiet (Emits.set (Q := fun _ => Open true) fun s hs => ⟨hs ▸ rfl, hinner⟩) fun _ => ?_
    refine (quiet_setBanner _).then_quiet fun _ => ?_
    exact Emits.then_quiet (Emits.modify (Q := fun _ => Open true) (fun _ => rfl) fun _ h => ⟨h.1, hnegotiated⟩)
      fun _ => Emits.pure fun _ h => h
  | error e r =>
    obtain ⟨buf, message, caps⟩ := r
    exact Emits.then_quiet (Emits.set (Q := fun _ => Open true) fun s hs => ⟨hs ▸ rfl, hinner⟩)
      fun _ => quiet_fail

lemma quiet_fastAuthDataTypes (s : FastAuthState) : Quiet true (fastAuthDataTypes s) := by
  have hnegotiated : ConnectionState.dataTypesNegotiated ≠ .ready := nofun
  unfold fastAuthDataTypes
  cases DataTypesMessage.parseMessage s.1 with
  | ok u buf =>
    exact Emits.then_quiet (Emits.modify (Q := fun _ => Open true) (fun _ => rfl) fun _ h => ⟨h.1, hnegotiated⟩)
      fun _ => Emits.pure fun _ h => h
  | error e buf => exact quiet_throw

lemma sound_renegotiate : Sound crypto login draws .renegotiate := fun _ h => nomatch h

lemma sound_other : Sound crypto login draws .other := fun _ h => nomatch h

/-- A turn of the loop sends nothing. -/
lemma emits_fastAuthMessage (flags : Bytes) (msgType : UInt8) (s : FastAuthState) :
    Emits sent (Open true) (login.fastAuthMessage crypto draws flags msgType s) 1
      (TurnSound crypto login draws) Failed := by
  have hmore {m : HandshakeM FastAuthState} (hm : Quiet true m) :
      Emits sent (Open true) (Sum.inl <$> m) 1 (TurnSound crypto login draws) Failed :=
    hm.then_quiet fun _ => Emits.pure fun _ h => ⟨fun _ he => (nomatch he), h⟩
  have hend {e : FastAuthEnd} (he : Sound crypto login draws e) :
      Emits sent (Open true) (pure (.inr e)) 1 (TurnSound crypto login draws) Failed :=
    Emits.pure fun _ h => ⟨fun e' h' => Sum.inr.inj h' ▸ he, h⟩
  unfold fastAuthMessage
  refine Emits.ite (fun _ => hmore (quiet_fastAuthProtocol s)) fun _ => ?_
  refine Emits.ite (fun _ => hmore (quiet_fastAuthDataTypes s)) fun _ => ?_
  refine Emits.ite (fun _ => hend sound_renegotiate) fun _ => Emits.ite (fun _ => ?_) fun _ => ?_
  · refine (emits_parseAuth (fun _ h => h.2) _ _).then_quiet fun auth => Emits.pure fun inner h => ⟨?_, h.2⟩
    intro e he auth' heq
    obtain rfl : FastAuthEnd.authResponse auth = e := Sum.inr.inj he
    cases heq
    exact ⟨_, h.1⟩
  · refine Emits.ite (fun _ => hend sound_other) fun _ => ?_
    exact Emits.throw ⟨[], Language.nil_mem_one⟩ fun _ h => h.2

lemma emits_fastAuthLoop (payload : Bytes) : Emits sent (Open true) (login.fastAuthLoop crypto draws payload) 1
    (fun e inner => Sound crypto login draws e ∧ Open true inner) Failed := by
  unfold fastAuthLoop
  generalize ((⟨payload.drop 2, 0⟩, {}) : FastAuthState) = s
  generalize payload.length + 1 = n
  induction n generalizing s with
  | zero => exact Emits.throw ⟨[], Language.nil_mem_one⟩ fun _ h => h.2
  | succ n ih =>
    have hturn : Emits sent (Open true) (login.fastAuthTurn crypto draws (payload.take 2) s) 1
        (TurnSound crypto login draws) Failed := by
      unfold fastAuthTurn
      cases s.1.rest with
      | nil => exact Emits.pure fun _ h => ⟨fun e he => Sum.inr.inj he ▸ sound_other, h⟩
      | cons msgType rest => exact emits_fastAuthMessage _ _ _
    refine hturn.then_quiet fun r => ?_
    cases r with
    | inl s' => exact (ih s').strengthen fun _ h => h.2
    | inr e => exact Emits.pure fun _ h => ⟨h.1 e rfl, h.2⟩

lemma emits_fastAuthExchange : Emits sent (Open true) (login.fastAuthExchange crypto draws)
    (dataMessage login.fastAuthBytes) (fun e inner => Sound crypto login draws e ∧ Open true inner) Failed := by
  have hfail {e : ConnectError} : Emits sent (Open true) (throw e : HandshakeM FastAuthEnd) 1
      (fun e inner => Sound crypto login draws e ∧ Open true inner) Failed :=
    Emits.throw ⟨[], Language.nil_mem_one⟩ fun _ h => h.2
  refine Emits.get ⟨_, mem_dataMessage _ default⟩ fun inner hinner => ?_
  rw [hinner.1, WriteM.freezeAsData_eq true (login.writes_writeFastAuth inner.capabilities)]
  refine emits_request hinner (mem_dataMessage _ inner.capabilities) ?_
  refine quiet_receiveResponse.then_quiet fun response => Emits.ite (fun _ => hfail) fun _ => ?_
  exact Emits.ite (fun _ => hfail) fun _ => emits_fastAuthLoop _

/-- The negotiation of the data types and the authentication. -/
lemma emits_negotiated : Emits sent (Open true) (do negotiateDataTypes; authenticate crypto login draws)
    (negotiated crypto login draws) (fun _ => Established crypto login draws) Failed :=
  emits_negotiateDataTypes.bind fun _ => emits_authenticate

/-- The fast path goes on with the second phase, or negotiates again. -/
lemma emits_fastPath : Emits sent (Open true)
    (do
      if ← login.authenticateWithFastAuth crypto fast then return
      else
        negotiateDataTypes
        authenticate crypto login draws)
    (dataMessage login.fastAuthBytes * (1 + phaseTwo crypto login fast + negotiated crypto login draws))
    (fun _ inner => Established crypto login fast inner ∨ Established crypto login draws inner) Failed := by
  have hnil : [] ∈ (1 + phaseTwo crypto login fast + negotiated crypto login draws) := Or.inl (Or.inl rfl)
  have hfail {e : ConnectError} : Emits sent (Open true) (throw e : HandshakeM Bool) 1
      (fun _ _ => False) Failed := Emits.throw ⟨[], Language.nil_mem_one⟩ fun _ h => h.2
  rw [authenticateWithFastAuth, bind_assoc]
  refine emits_fastAuthExchange.bind_of_nonempty ⟨_, hnil⟩ fun e => Emits.assume ⟨_, hnil⟩ fun hsound => ?_
  cases e with
  | renegotiate => exact (emits_negotiated.mono fun _ hw => Or.inr hw).weaken fun _ _ h => Or.inr h
  | other => exact hfail.bind_quiet fun _ => ⟨⟨[], hnil⟩, fun _ h => h.elim⟩
  | authResponse auth =>
    have hauth := hsound auth rfl
    have hkeyed : Keyed auth := hauth.elim fun _ h => keyed_of_parseResponse rfl h
    simp only [hkeyed.1, ne_eq, not_true_eq_false, if_false, bind_assoc, pure_bind]
    refine Emits.mono ?_ fun _ hw => Or.inl hw
    refine (emits_authenticatePhaseTwo hauth).then_quiet fun auth' => ?_
    exact (emits_finishAuthentication auth').then_quiet fun _ => Emits.pure fun _ h => Or.inl h

end Fast

end Login

end OracleRs
