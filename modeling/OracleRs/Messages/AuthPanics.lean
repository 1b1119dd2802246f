import OracleRs.Buffer.Errors
import OracleRs.Messages.Auth

set_option relaxedAutoImplicit false
set_option autoImplicit false

/-!
# Panics of the authentication

The combo keys are made of fixed ranges of the session key parts, and nobody checks that these are long
enough: a session key of the server has to be full blocks, but one or two of them may be too few. Phase one
panics on such a key, if everything else that a verifier needs is there, and on nothing else.

## Main definitions

* `OracleRs.AuthMessage.Returns` — the call returns `Ok` or `Err`.
* `OracleRs.AuthMessage.KeyLongEnough` — the server's session key has the bytes that a combo key is made of.

## Main results

* `OracleRs.AuthMessage.succeeds_generateVerifier_iff` — when a verifier is generated.
* `OracleRs.AuthMessage.returns_iff` — phase one panics only on session keys that are too short.
-/

namespace OracleRs

open Cursor

/-! ## Combo keys -/

namespace Crypto

variable {crypto : Crypto}

lemma exists_keyPart_iff (start len : ℕ) (part : Bytes) :
    (∃ b, keyPart start len part = .ok b) ↔ start + len ≤ part.length := by
  unfold keyPart
  split_ifs with hlt
  · refine iff_of_false ?_ (by omega)
    rintro ⟨b, h⟩
    cases h
  · exact iff_of_true ⟨_, rfl⟩ (by omega)

/-- Two computations succeed together. -/
private lemma exists_bind_iff {r r' : Except Error Bytes} {f : Bytes → Bytes → Bytes} :
    (∃ c, (do let a ← r; let b ← r'; return f a b) = Except.ok c) ↔
      (∃ a, r = .ok a) ∧ ∃ b, r' = .ok b := by
  cases r with
  | error e =>
    refine iff_of_false ?_ ?_
    · rintro ⟨c, h⟩
      cases h
    · rintro ⟨⟨a, h⟩, -⟩
      cases h
  | ok a =>
    cases r' with
    | error e =>
      refine iff_of_false ?_ ?_
      · rintro ⟨c, h⟩
        cases h
      · rintro ⟨-, b, h⟩
        cases h
    | ok b => exact iff_of_true ⟨_, rfl⟩ ⟨⟨a, rfl⟩, b, rfl⟩

/-- A 12c combo key is made of the first 32 bytes of both parts. -/
lemma exists_generate12cComboKey_iff (partA partB salt : Bytes) (iterations : UInt32) :
    (∃ key, crypto.generate12cComboKey partA partB salt iterations = .ok key) ↔
      32 ≤ partB.length ∧ 32 ≤ partA.length := by
  rw [generate12cComboKey, exists_bind_iff, exists_keyPart_iff, exists_keyPart_iff, Nat.zero_add]

/-- An 11g combo key is made of 24 bytes of both parts behind the first 16. -/
lemma exists_generate11gComboKey_iff (partA partB : Bytes) :
    (∃ key, crypto.generate11gComboKey partA partB = .ok key) ↔
      40 ≤ partA.length ∧ 40 ≤ partB.length := by
  rw [generate11gComboKey, exists_bind_iff, exists_keyPart_iff, exists_keyPart_iff]

variable (crypto) in
/-- AES in CBC mode without padding keeps the length of full blocks. -/
structure KeepsLength : Prop where
  /-- AES-256 -/
  aes256CbcDec : ∀ key blocks, key.length = 32 → FullBlocks blocks →
    (crypto.aes256CbcDec key blocks).length = blocks.length
  /-- AES-192 -/
  aes192CbcDec : ∀ key blocks, key.length = 24 → FullBlocks blocks →
    (crypto.aes192CbcDec key blocks).length = blocks.length

lemma keepsLength_zeros : KeepsLength .zeros :=
  ⟨fun _ _ _ _ => List.length_map _, fun _ _ _ _ => List.length_map _⟩

/-- What is decrypted has the length of its blocks. -/
lemma length_of_decryptCbc {bits len : ℕ} {dec : Bytes → Bytes → Bytes} {key blocks plaintext : Bytes}
    (hdec : ∀ key blocks, key.length = len → FullBlocks blocks → (dec key blocks).length = blocks.length)
    (hkey : key.length = len) (h : decryptCbc bits len dec key blocks = .ok plaintext) :
    plaintext.length = blocks.length := by
  have hblocks := (exists_decryptCbc_iff hkey blocks).mp ⟨plaintext, h⟩
  rw [decryptCbc_eq hkey hblocks] at h
  cases h
  exact hdec key blocks hkey hblocks

end Crypto

namespace AuthMessage

/-! ## Successes -/

/-- From the state the operation succeeds. -/
def Succeeds (m : AuthM Unit) (msg : AuthMessage) : Prop := ∃ u msg', m msg = .ok u msg'

section Succeeds

variable {msg : AuthMessage} {α : Type}

lemma succeeds_get {f : AuthMessage → AuthM Unit} :
    Succeeds (get >>= f) msg ↔ Succeeds (f msg) msg := Iff.rfl

lemma succeeds_modify (g : AuthMessage → AuthMessage) : Succeeds (modify g) msg ↔ True :=
  iff_of_true ⟨_, _, rfl⟩ trivial

lemma succeeds_change {g : AuthMessage → AuthMessage} {m : AuthM Unit} :
    Succeeds (modify g >>= fun _ => m) msg ↔ Succeeds m (g msg) := Iff.rfl

lemma succeeds_throw (e : Error) : Succeeds (throw e) msg ↔ False := by
  refine iff_of_false ?_ not_false
  rintro ⟨u, msg', h⟩
  cases h

lemma succeeds_lift {r : Except Error α} {f : α → AuthM Unit} :
    Succeeds (lift r >>= f) msg ↔ ∃ a, r = .ok a ∧ Succeeds (f a) msg := by
  cases r with
  | error e =>
    refine iff_of_false (succeeds_throw e).mp ?_
    rintro ⟨a, h, -⟩
    cases h
  | ok a =>
    constructor
    · exact fun h => ⟨a, rfl, h⟩
    · rintro ⟨_, heq, h⟩
      cases heq
      exact h

lemma succeeds_require {value : Option α} {e : Error} {f : α → AuthM Unit} :
    Succeeds (require value e >>= f) msg ↔ ∃ a ∈ value, Succeeds (f a) msg := by
  cases value with
  | none =>
    refine iff_of_false (succeeds_throw e).mp ?_
    rintro ⟨a, h, -⟩
    cases h
  | some a =>
    constructor
    · exact fun h => ⟨a, rfl, h⟩
    · rintro ⟨_, heq, h⟩
      cases heq
      exact h

lemma succeeds_decodeHex {crypto : Crypto} {what s : String} {f : Bytes → AuthM Unit} :
    Succeeds (decodeHex crypto what s >>= f) msg ↔
      ∃ b, crypto.hexDecode s = .ok b ∧ Succeeds (f b) msg := by
  unfold decodeHex
  cases crypto.hexDecode s with
  | error e =>
    refine iff_of_false (succeeds_throw _).mp ?_
    rintro ⟨b, h, -⟩
    cases h
  | ok b =>
    constructor
    · exact fun h => ⟨b, rfl, h⟩
    · rintro ⟨_, heq, h⟩
      cases heq
      exact h

end Succeeds

/-! ## Verifiers -/

section Verifiers

variable {crypto : Crypto} {random : ℕ → Bytes}

/-- The bytes of a session key part that a combo key of the type needs. -/
def comboLen (verifierType : UInt32) : ℕ := if verifierType = VerifierType.v12c then 32 else 40

/-- A 12c verifier is generated if its data are there and the key is long enough. -/
lemma succeeds_generate12cVerifier_iff (hcrypto : crypto.KeepsLength)
    (hrandom : ∀ n, (random n).length = n) (msg : AuthMessage) (vfrData serverKey : Bytes) :
    Succeeds (generate12cVerifier crypto random vfrData serverKey) msg ↔
      Crypto.FullBlocks serverKey ∧ Suffices12c crypto msg.sessionData ∧ 32 ≤ serverKey.length := by
  have hlen := crypto.length_generate12cPasswordHash msg.password vfrData
  unfold generate12cVerifier
  simp only [succeeds_get, succeeds_require, succeeds_lift, succeeds_change, succeeds_decodeHex,
    succeeds_modify, and_true]
  constructor
  · rintro ⟨iterations, hvgen, partA, hpartA, -, -, salt, hsalt, b, hb, sder, hsder, hcombo⟩
    have hpart := Crypto.length_of_decryptCbc hcrypto.aes256CbcDec (hlen iterations) hpartA
    refine ⟨(Crypto.exists_decryptCbc_iff (hlen iterations) serverKey).mp ⟨partA, hpartA⟩,
      ⟨Option.isSome_of_mem hvgen, Option.isSome_of_mem hsder, salt, hsalt, b, hb⟩, ?_⟩
    rw [← hpart]
    exact ((Crypto.exists_generate12cComboKey_iff _ _ _ _).mp hcombo).2
  · rintro ⟨hblocks, ⟨hvgen, hsder, salt, hsalt, b, hb⟩, hlong⟩
    obtain ⟨iterations, hvgen⟩ := Option.isSome_iff_exists.mp hvgen
    obtain ⟨sder, hsder⟩ := Option.isSome_iff_exists.mp hsder
    obtain ⟨partA, hpartA⟩ := (Crypto.exists_decryptCbc_iff (hlen iterations) serverKey).mpr hblocks
    have hpart := Crypto.length_of_decryptCbc hcrypto.aes256CbcDec (hlen iterations) hpartA
    refine ⟨iterations, hvgen, partA, hpartA, _, Crypto.encryptCbc_eq (hlen iterations) _, salt, hsalt,
      b, hb, sder, hsder, ?_⟩
    rw [Crypto.exists_generate12cComboKey_iff, hrandom, hpart]
    exact ⟨hlong, hlong⟩

/-- An 11g verifier is generated if the key is long enough. -/
lemma succeeds_generate11gVerifier_iff (hcrypto : crypto.KeepsLength)
    (hrandom : ∀ n, (random n).length = n) (msg : AuthMessage) (vfrData serverKey : Bytes) :
    Succeeds (generate11gVerifier crypto random vfrData serverKey) msg ↔
      Crypto.FullBlocks serverKey ∧ 40 ≤ serverKey.length := by
  have hlen := crypto.length_generate11gPasswordHash msg.password vfrData
  unfold generate11gVerifier
  simp only [succeeds_get, succeeds_lift, succeeds_change, succeeds_modify, and_true]
  constructor
  · rintro ⟨partA, hpartA, -, -, hcombo⟩
    have hpart := Crypto.length_of_decryptCbc hcrypto.aes192CbcDec hlen hpartA
    refine ⟨(Crypto.exists_decryptCbc_iff hlen serverKey).mp ⟨partA, hpartA⟩, ?_⟩
    rw [← hpart]
    exact ((Crypto.exists_generate11gComboKey_iff _ _).mp hcombo).1
  · rintro ⟨hblocks, hlong⟩
    obtain ⟨partA, hpartA⟩ := (Crypto.exists_decryptCbc_iff hlen serverKey).mpr hblocks
    have hpart := Crypto.length_of_decryptCbc hcrypto.aes192CbcDec hlen hpartA
    refine ⟨partA, hpartA, _, Crypto.encryptCbc_eq hlen _, ?_⟩
    rw [Crypto.exists_generate11gComboKey_iff, hrandom, hpart]
    exact ⟨hlong, hlong⟩

variable (crypto) in
/-- The session key is long enough for a combo key of the type. -/
def KeyReaches (data : SessionData) (verifierType : UInt32) : Prop :=
  ∀ sesskey ∈ data.authSesskey, ∀ key, crypto.hexDecode sesskey = .ok key →
    comboLen verifierType ≤ key.length

/-- A verifier is generated if the session data suffice and the key is long enough. -/
lemma succeeds_generateVerifier_iff (hcrypto : crypto.KeepsLength)
    (hrandom : ∀ n, (random n).length = n) (msg : AuthMessage) :
    Succeeds (generateVerifier crypto random) msg ↔
      Suffices crypto msg.sessionData msg.verifierType ∧
        KeyReaches crypto msg.sessionData msg.verifierType := by
  have hverifier (vfrBytes key : Bytes) : Succeeds
      (if msg.verifierType = VerifierType.v12c then generate12cVerifier crypto random vfrBytes key
        else if msg.verifierType = VerifierType.v11g1 ∨ msg.verifierType = VerifierType.v11g2 then
          generate11gVerifier crypto random vfrBytes key
        else throw (.unsupportedVerifierType msg.verifierType)) msg ↔
      Crypto.FullBlocks key ∧
        (msg.verifierType = VerifierType.v12c ∧ Suffices12c crypto msg.sessionData ∨
          msg.verifierType = VerifierType.v11g1 ∨ msg.verifierType = VerifierType.v11g2) ∧
        comboLen msg.verifierType ≤ key.length := by
    unfold comboLen
    split_ifs with h12c h11g
    · rw [succeeds_generate12cVerifier_iff hcrypto hrandom]
      simp [h12c, VerifierType.v12c, VerifierType.v11g1, VerifierType.v11g2]
    · rw [succeeds_generate11gVerifier_iff hcrypto hrandom]
      simp [h12c, h11g]
    · rw [succeeds_throw]
      simp [h12c, h11g]
  unfold generateVerifier
  simp only [succeeds_get, succeeds_require, succeeds_decodeHex, hverifier]
  constructor
  · rintro ⟨vfrData, hvfr, vfrBytes, hvfrBytes, sesskey, hsesskey, key, hkey, hblocks, htype, hlong⟩
    refine ⟨⟨⟨vfrData, hvfr, vfrBytes, hvfrBytes⟩, ⟨sesskey, hsesskey, key, hkey, hblocks⟩, htype⟩, ?_⟩
    intro sesskey' hsesskey' key' hkey'
    cases Option.mem_unique hsesskey hsesskey'
    rw [hkey] at hkey'
    cases hkey'
    exact hlong
  · rintro ⟨⟨⟨vfrData, hvfr, vfrBytes, hvfrBytes⟩, ⟨sesskey, hsesskey, key, hkey, hblocks⟩, htype⟩, hlong⟩
    exact ⟨vfrData, hvfr, vfrBytes, hvfrBytes, sesskey, hsesskey, key, hkey, hblocks, htype,
      hlong sesskey hsesskey key hkey⟩

end Verifiers

/-! ## Panics of a call -/

lemma failsAsBuffer_readPair : FailsAsBuffer readPair := by
  refine failsAsBuffer_skipUb.bind fun _ => failsAsBuffer_readStringWithLength.bind fun key => ?_
  refine failsAsBuffer_readUb4.bind fun valueLen => ?_
  refine FailsAsBuffer.bind (.ite failsAsBuffer_readStringWithLength (.pure none)) fun value => ?_
  exact failsAsBuffer_readUb4.bind fun flags => .pure _

/-- What cannot be read is refused. -/
lemma isPanic_of_readPairs {payload : Bytes} {e : Error} (h : readPairs.runOn payload = .error e) :
    e.isPanic = false := by
  have hkeeps : Built.Keeps (fun _ => True) (fun e => e.isPanic = false) readPairs := by
    have hreader {α : Type} {m : ReadM α} (hm : FailsAsBuffer m) :
        Built.Keeps (fun _ => True) (fun e => e.isPanic = false) m :=
      Built.Keeps.mono hm fun e => Error.OfBuffer.isPanic
    refine (hreader (failsAsBuffer_skip 2)).bind fun _ => ?_
    refine (hreader failsAsBuffer_readU8).bind fun msgType => ?_
    have hrest := hreader (failsAsBuffer_readUb2.bind fun n => failsAsBuffer_readPair.times n.toNat)
    exact .ite (.bind (.throw rfl) fun _ => hrest) hrest
  have hkept := hkeeps ⟨payload, 0⟩ trivial
  unfold ReadM.runOn at h
  split at h
  · cases h
  · next hrun =>
    cases h
    rw [hrun] at hkept
    exact hkept.2

/-- The call returns `Ok` or `Err`. -/
def Returns (crypto : Crypto) (random : ℕ → Bytes) (payload : Bytes) (msg : AuthMessage) : Prop :=
  ∀ e msg', parseResponse crypto random payload msg = .error e msg' → e.isPanic = false

/-- If the response has all that a verifier needs, its session key is long enough for a combo key. -/
def KeyLongEnough (crypto : Crypto) (payload : Bytes) (msg : AuthMessage) : Prop :=
  ∀ pairs, readPairs.runOn payload = .ok pairs →
    Suffices crypto (msg.received pairs).sessionData (msg.received pairs).verifierType →
    KeyReaches crypto (msg.received pairs).sessionData (msg.received pairs).verifierType

/-- In phase one the call returns `Ok` or `Err` if and only if the session key is long enough, or something
else that a verifier needs is not there. -/
theorem returns_iff {crypto : Crypto} {random : ℕ → Bytes} (hcrypto : crypto.KeepsLength)
    (hrandom : ∀ n, (random n).length = n) {msg : AuthMessage} (hphase : msg.phase = .one)
    (payload : Bytes) :
    Returns crypto random payload msg ↔ KeyLongEnough crypto payload msg := by
  cases hread : readPairs.runOn payload with
  | error e =>
    refine iff_of_true (fun e' msg' h => ?_) fun pairs h => by rw [hread] at h; cases h
    rw [parseResponse_of_error crypto random hread] at h
    cases h
    exact isPanic_of_readPairs hread
  | ok pairs =>
    have hlong : KeyLongEnough crypto payload msg ↔
        (Suffices crypto (msg.received pairs).sessionData (msg.received pairs).verifierType →
          KeyReaches crypto (msg.received pairs).sessionData (msg.received pairs).verifierType) := by
      simp [KeyLongEnough, hread]
    rw [hlong, Returns, parseResponse_of_one crypto random hread hphase]
    have hfails := failsUnless_generateVerifier crypto random { msg.received pairs with phase := .two }
    have hsucceeds := succeeds_generateVerifier_iff hcrypto hrandom
      { msg.received pairs with phase := .two }
    constructor
    · intro hreturns hsuffices
      refine (hsucceeds.mp ?_).2
      cases hrun : generateVerifier crypto random { msg.received pairs with phase := .two } with
      | ok u msg' => exact ⟨u, msg', hrun⟩
      | error e msg' =>
        -- the session data suffice, so this is a panic
        have hpanic := hfails.panics hsuffices e msg' hrun
        rw [hreturns e msg' hrun] at hpanic
        cases hpanic
    · intro hreaches e msg' hrun
      by_cases hsuffices : Suffices crypto (msg.received pairs).sessionData
          (msg.received pairs).verifierType
      · obtain ⟨u, msg'', hok⟩ := hsucceeds.mpr ⟨hsuffices, hreaches hsuffices⟩
        rw [hok] at hrun
        cases hrun
      · obtain ⟨e', msg'', herr, he', -⟩ := hfails.fails hsuffices
        rw [herr] at hrun
        cases hrun
        exact he'

/-- In phase one the empty response is refused without a panic. -/
theorem returns_emptyResponse :
    Returns .zeros (fun n => List.replicate n 0) emptyResponse { password := [] } := by
  refine (returns_iff Crypto.keepsLength_zeros (fun n => List.length_replicate) rfl _).mpr ?_
  intro pairs hpairs _ sesskey hsesskey
  obtain rfl : [] = pairs := Except.ok.inj hpairs
  cases hsesskey

/-! ## A key that is too short -/

/-- The value of a hexadecimal digit. -/
def hexDigit (c : UInt8) : Option UInt8 :=
  if 48 ≤ c ∧ c ≤ 57 then some (c - 48)
  else if 65 ≤ c ∧ c ≤ 70 then some (c - 55)
  else if 97 ≤ c ∧ c ≤ 102 then some (c - 87)
  else none

/-- The bytes of pairs of hexadecimal digits. -/
def hexBytes : Bytes → Except String Bytes
  | [] => .ok []
  | [_] => .error "Odd number of digits"
  | c :: c' :: s =>
    match hexDigit c, hexDigit c' with
    | some d, some d' => (hexBytes s).map fun bytes => (16 * d + d') :: bytes
    | _, _ => .error "Invalid character"

/-- Primitives that decode hexadecimal digits. -/
def hexCrypto : Crypto := { Crypto.zeros with hexDecode := fun s => hexBytes (asBytes s) }

/-- A response with an 11g verifier and a session key of a single block. -/
def shortKeyResponse : Bytes :=
  [0, 0, 8, 1, 2, 1, 13, 13] ++ asBytes "AUTH_VFR_DATA" ++ [0, 2, 0xb1, 0x52, 1, 12, 12] ++
    asBytes "AUTH_SESSKEY" ++ [1, 32, 32] ++ List.replicate 32 48 ++ [0]

/-- With a session key of 16 bytes an index of the 11g combo key is out of bounds. -/
theorem not_returns_shortKeyResponse :
    hexCrypto.KeepsLength ∧
      ¬Returns hexCrypto (fun n => List.replicate n 0) shortKeyResponse { password := [] } := by
  have hcrypto : hexCrypto.KeepsLength :=
    ⟨fun _ _ _ _ => List.length_map _, fun _ _ _ _ => List.length_map _⟩
  refine ⟨hcrypto, fun hreturns => ?_⟩
  have hread : readPairs.runOn shortKeyResponse = .ok [("AUTH_VFR_DATA", "", 0xb152),
      ("AUTH_SESSKEY", String.ofList (List.replicate 32 '0'), 0)] := by
    decide +kernel
  have hrun : ∃ msg', parseResponse hexCrypto (fun n => List.replicate n 0) shortKeyResponse
      { password := [] } = .error (.indexOutOfBounds 40 16) msg' := by
    rw [parseResponse_of_one _ _ hread rfl]
    exact ⟨_, rfl⟩
  obtain ⟨msg', hrun⟩ := hrun
  cases hreturns _ _ hrun

end AuthMessage

end OracleRs
