import OracleRs.Buffer.Read
import OracleRs.Lib.Machine
import OracleRs.Text

set_option relaxedAutoImplicit false
set_option autoImplicit false

/-!
# Authentication

The client's side of the O5LOGON exchange (`messages/auth.rs`, `crypto.rs`). A response of the server
is parsed into session data; in phase one these have to suffice for a verifier, in phase two they may
carry a proof that the server knows the keys. The phase is advanced before either is checked.

The cryptographic primitives, the hexadecimal codec and the random numbers are those of other
libraries.

## Main definitions

* `OracleRs.Crypto` — the primitives.
* `OracleRs.AuthMessage` — the state, `OracleRs.AuthMessage.parseResponse` — one call.
* `OracleRs.AuthMessage.ResponseUsable` — what the response says passes the check of its phase.

## Main results

* `OracleRs.AuthMessage.keepsOnError_iff` — when a call that fails leaves the state as it was.
* `OracleRs.AuthMessage.advances_only_on_success` — and what follows for sequences of calls.
-/

namespace OracleRs

open Cursor

/-! ## Primitives -/

/-- The functions of other libraries: the `hex` crate, AES in CBC mode with a zero IV for input that is
aligned to its blocks, PBKDF2 and the hash functions. -/
structure Crypto where
  /-- `hex::decode`, or the text of its error -/
  hexDecode : String → Except String Bytes
  /-- `hex::encode_upper` -/
  hexEncodeUpper : Bytes → String
  /-- AES-256-CBC, encryption -/
  aes256CbcEnc : Bytes → Bytes → Bytes
  /-- AES-256-CBC, decryption -/
  aes256CbcDec : Bytes → Bytes → Bytes
  /-- AES-192-CBC, encryption -/
  aes192CbcEnc : Bytes → Bytes → Bytes
  /-- AES-192-CBC, decryption -/
  aes192CbcDec : Bytes → Bytes → Bytes
  /-- `pbkdf2_hmac::<Sha512>`: a key of the given length -/
  pbkdf2HmacSha512 : Bytes → Bytes → UInt32 → ℕ → Bytes
  /-- SHA-512 -/
  sha512 : Bytes → Bytes
  /-- SHA-1 -/
  sha1 : Bytes → Bytes
  /-- MD5 -/
  md5 : Bytes → Bytes
  /-- an SHA-512 hash has 64 bytes -/
  length_sha512 : ∀ data, (sha512 data).length = 64
  /-- an SHA-1 hash has 20 bytes -/
  length_sha1 : ∀ data, (sha1 data).length = 20

namespace Crypto

variable (crypto : Crypto)

/-- The check of the length of a key. -/
def checkKey (bits len : ℕ) (key : Bytes) : Except Error Unit :=
  if key.length ≠ len then
    .error (.protocol ("AES-" ++ toString bits ++ " key must be " ++ toString len ++ " bytes, got " ++
      toString key.length))
  else .ok ()

/-- The check of the length of a ciphertext. -/
def checkCiphertext (ciphertext : Bytes) : Except Error Unit :=
  if ciphertext = [] ∨ ciphertext.length % 16 ≠ 0 then
    .error (.protocol ("Ciphertext length must be a multiple of 16 bytes, got " ++
      toString ciphertext.length))
  else .ok ()

/-- The number of bytes of PKCS7 padding: a full block if the text is aligned. -/
def paddingLen (plaintext : Bytes) : ℕ := 16 - plaintext.length % 16

/-- A text with PKCS7 padding. -/
def pad (plaintext : Bytes) : Bytes :=
  plaintext ++ List.replicate (paddingLen plaintext) (UInt8.ofNat (paddingLen plaintext))

/-- The encryption of a text that is padded first. -/
def encryptCbc (bits len : ℕ) (enc : Bytes → Bytes → Bytes) (key plaintext : Bytes) :
    Except Error Bytes := do
  checkKey bits len key
  return enc key (pad plaintext)

/-- The decryption of full blocks. -/
def decryptCbc (bits len : ℕ) (dec : Bytes → Bytes → Bytes) (key ciphertext : Bytes) :
    Except Error Bytes := do
  checkKey bits len key
  checkCiphertext ciphertext
  return dec key ciphertext

/-- `encrypt_cbc_256_pkcs7`. -/
def encryptCbc256Pkcs7 : Bytes → Bytes → Except Error Bytes := encryptCbc 256 32 crypto.aes256CbcEnc

/-- `decrypt_cbc_256`. -/
def decryptCbc256 : Bytes → Bytes → Except Error Bytes := decryptCbc 256 32 crypto.aes256CbcDec

/-- `encrypt_cbc_192`. -/
def encryptCbc192 : Bytes → Bytes → Except Error Bytes := encryptCbc 192 24 crypto.aes192CbcEnc

/-- `decrypt_cbc_192`. -/
def decryptCbc192 : Bytes → Bytes → Except Error Bytes := decryptCbc 192 24 crypto.aes192CbcDec

/-- `pbkdf2_derive`. -/
def pbkdf2Derive (password salt : Bytes) (iterations : UInt32) (length : ℕ) : Bytes :=
  crypto.pbkdf2HmacSha512 password salt iterations length

/-- `generate_12c_password_key`. -/
def generate12cPasswordKey (password verifierData : Bytes) (iterations : UInt32) : Bytes :=
  crypto.pbkdf2Derive password (verifierData ++ asBytes "AUTH_PBKDF2_SPEEDY_KEY") iterations 64

/-- `generate_12c_password_hash`. -/
def generate12cPasswordHash (password verifierData : Bytes) (iterations : UInt32) : Bytes :=
  (crypto.sha512 (crypto.generate12cPasswordKey password verifierData iterations ++
    verifierData)).take 32

/-- `generate_11g_password_hash`. -/
def generate11gPasswordHash (password verifierData : Bytes) : Bytes :=
  crypto.sha1 (password ++ verifierData) ++ [0, 0, 0, 0]

/-- Some bytes of a session key part; the source panics if there are too few. -/
def keyPart (start len : ℕ) (part : Bytes) : Except Error Bytes :=
  if part.length < start + len then .error (.indexOutOfBounds (start + len) part.length)
  else .ok ((part.drop start).take len)

/-- `generate_12c_combo_key`. -/
def generate12cComboKey (partA partB salt : Bytes) (iterations : UInt32) : Except Error Bytes := do
  let b ← keyPart 0 32 partB
  let a ← keyPart 0 32 partA
  return crypto.pbkdf2Derive (asBytes (crypto.hexEncodeUpper b ++ crypto.hexEncodeUpper a)) salt
    iterations 32

/-- `generate_11g_combo_key`. -/
def generate11gComboKey (partA partB : Bytes) : Except Error Bytes := do
  let a ← keyPart 16 24 partA
  let b ← keyPart 16 24 partB
  let xored := List.zipWith (· ^^^ ·) a b
  return (crypto.md5 (xored.take 16) ++ crypto.md5 (xored.drop 16)).take 24

/-- Primitives that answer with zeros, and decode nothing. -/
def zeros : Crypto where
  hexDecode _ := .error "no digits"
  hexEncodeUpper b := String.ofList (List.replicate (2 * b.length) '0')
  aes256CbcEnc _ b := b.map fun _ => 0
  aes256CbcDec _ b := b.map fun _ => 0
  aes192CbcEnc _ b := b.map fun _ => 0
  aes192CbcDec _ b := b.map fun _ => 0
  pbkdf2HmacSha512 _ _ _ n := List.replicate n 0
  sha512 _ := List.replicate 64 0
  sha1 _ := List.replicate 20 0
  md5 _ := List.replicate 16 0
  length_sha512 _ := List.length_replicate
  length_sha1 _ := List.length_replicate

/-! ### Their failures -/

/-- The bytes can be a ciphertext. -/
def FullBlocks (ciphertext : Bytes) : Prop := ciphertext ≠ [] ∧ ciphertext.length % 16 = 0

/-- A text is encrypted with a key of the right length. -/
lemma encryptCbc_eq {bits len : ℕ} {enc : Bytes → Bytes → Bytes} {key : Bytes}
    (hkey : key.length = len) (plaintext : Bytes) :
    encryptCbc bits len enc key plaintext = .ok (enc key (pad plaintext)) := by
  rw [encryptCbc, checkKey, if_neg (not_not.mpr hkey)]
  rfl

/-- Full blocks are decrypted with a key of the right length. -/
lemma decryptCbc_eq {bits len : ℕ} {dec : Bytes → Bytes → Bytes} {key ciphertext : Bytes}
    (hkey : key.length = len) (hblocks : FullBlocks ciphertext) :
    decryptCbc bits len dec key ciphertext = .ok (dec key ciphertext) := by
  have hcheck : ¬ (ciphertext = [] ∨ ciphertext.length % 16 ≠ 0) :=
    fun h => h.elim hblocks.1 fun hmod => hmod hblocks.2
  rw [decryptCbc, checkKey, if_neg (not_not.mpr hkey), checkCiphertext, if_neg hcheck]
  rfl

/-- With a key of the right length full blocks are decrypted, and nothing else. -/
lemma exists_decryptCbc_iff {bits len : ℕ} {dec : Bytes → Bytes → Bytes} {key : Bytes}
    (hkey : key.length = len) (ciphertext : Bytes) :
    (∃ plaintext, decryptCbc bits len dec key ciphertext = .ok plaintext) ↔
      FullBlocks ciphertext := by
  refine ⟨?_, fun hblocks => ⟨_, decryptCbc_eq hkey hblocks⟩⟩
  rw [decryptCbc, checkKey, if_neg (not_not.mpr hkey), checkCiphertext, FullBlocks]
  split_ifs with h
  · rintro ⟨_, hok⟩
    cases hok
  · rw [not_or, not_not] at h
    exact fun _ => h

/-- What is not decrypted is refused. -/
lemma isPanic_of_decryptCbc {bits len : ℕ} {dec : Bytes → Bytes → Bytes} {key ciphertext : Bytes}
    {e : Error} (h : decryptCbc bits len dec key ciphertext = .error e) : e.isPanic = false := by
  unfold decryptCbc checkKey checkCiphertext at h
  split_ifs at h <;> cases h <;> rfl

lemma isPanic_of_keyPart {start len : ℕ} {part : Bytes} {e : Error}
    (h : keyPart start len part = .error e) : e.isPanic = true := by
  unfold keyPart at h
  split_ifs at h
  cases h
  rfl

/-- Of two computations one has failed. -/
private lemma error_of_bind {r r' : Except Error Bytes} {f : Bytes → Bytes → Bytes} {e : Error}
    (h : (do let a ← r; let b ← r'; return f a b) = Except.error e) :
    r = .error e ∨ r' = .error e := by
  cases r with
  | error _ => cases h; exact Or.inl rfl
  | ok a =>
    cases r' with
    | error _ => cases h; exact Or.inr rfl
    | ok b => cases h

/-- The combo keys fail only with a panic. -/
lemma isPanic_of_generate12cComboKey {partA partB salt : Bytes} {iterations : UInt32} {e : Error}
    (h : crypto.generate12cComboKey partA partB salt iterations = .error e) : e.isPanic = true :=
  (error_of_bind h).elim isPanic_of_keyPart isPanic_of_keyPart

lemma isPanic_of_generate11gComboKey {partA partB : Bytes} {e : Error}
    (h : crypto.generate11gComboKey partA partB = .error e) : e.isPanic = true :=
  (error_of_bind h).elim isPanic_of_keyPart isPanic_of_keyPart

lemma length_generate12cPasswordHash (password vfrData : Bytes) (iterations : UInt32) :
    (crypto.generate12cPasswordHash password vfrData iterations).length = 32 := by
  simp [generate12cPasswordHash, crypto.length_sha512]

lemma length_generate11gPasswordHash (password vfrData : Bytes) :
    (crypto.generate11gPasswordHash password vfrData).length = 24 := by
  simp [generate11gPasswordHash, crypto.length_sha1]

end Crypto

/-! ## Session data -/

/-- `str::parse::<u32>`; a minus sign is no digit. -/
def parseU32 (s : String) : Option UInt32 :=
  if (asBytes s).head? = some 45 then none
  else (parseInt 0 (2 ^ 32 - 1) (asBytes s)).map fun n => UInt32.ofNat n.toNat

/-- The session data from the server (`SessionData`). -/
structure SessionData where
  /-- the server's session key, in hexadecimal -/
  authSesskey : Option String := none
  /-- the verifier data, in hexadecimal -/
  authVfrData : Option String := none
  /-- the CSK salt, in hexadecimal -/
  authPbkdf2CskSalt : Option String := none
  /-- the iterations for the password key -/
  authPbkdf2VgenCount : Option UInt32 := none
  /-- the iterations for the combo key -/
  authPbkdf2SderCount : Option UInt32 := none
  /-- the version number of the database -/
  authVersionNo : Option UInt32 := none
  /-- the globally unique database id -/
  authGloballyUniqueDbid : Option String := none
  /-- the server's proof, in hexadecimal -/
  authSvrResponse : Option String := none
deriving DecidableEq, Repr, Inhabited

namespace SessionData

/-- The arms of `from_pairs`. -/
def store (data : SessionData) (key value : String) : SessionData :=
  if key = "AUTH_SESSKEY" then { data with authSesskey := some value }
  else if key = "AUTH_VFR_DATA" then { data with authVfrData := some value }
  else if key = "AUTH_PBKDF2_CSK_SALT" then { data with authPbkdf2CskSalt := some value }
  else if key = "AUTH_PBKDF2_VGEN_COUNT" then { data with authPbkdf2VgenCount := parseU32 value }
  else if key = "AUTH_PBKDF2_SDER_COUNT" then { data with authPbkdf2SderCount := parseU32 value }
  else if key = "AUTH_VERSION_NO" then { data with authVersionNo := parseU32 value }
  else if key = "AUTH_GLOBALLY_UNIQUE_DBID" then { data with authGloballyUniqueDbid := some value }
  else if key = "AUTH_SVR_RESPONSE" then { data with authSvrResponse := some value }
  else data

/-- `SessionData::from_pairs`; the pairs are those of a map, so that their order does not matter. -/
def fromPairs (pairs : List (String × String)) : SessionData :=
  pairs.foldl (fun data pair => data.store pair.1 pair.2) {}

end SessionData

/-! ## Messages -/

/-- `AuthPhase`. -/
inductive AuthPhase where
  | one | two | complete
deriving DecidableEq, Repr, Inhabited

namespace VerifierType

/-- `verifier_type::V11G_1`. -/
def v11g1 : UInt32 := 0xb152

/-- `verifier_type::V11G_2`. -/
def v11g2 : UInt32 := 0x1b25

/-- `verifier_type::V12C`. -/
def v12c : UInt32 := 0x4815

end VerifierType

/-- The state of an authentication (`AuthMessage`), without what only the requests carry. -/
structure AuthMessage where
  /-- the password -/
  password : Bytes
  /-- the phase -/
  phase : AuthPhase := .one
  /-- the session data from the server -/
  sessionData : SessionData := {}
  /-- the verifier type -/
  verifierType : UInt32 := 0
  /-- the combo key -/
  comboKey : Option Bytes := none
  /-- the client's session key -/
  clientSessionKey : Option Bytes := none
deriving DecidableEq, Repr, Inhabited

/-- One key with its value, and the flags behind it. -/
def readPair : ReadM (String × String × UInt32) := do
  skipUb4
  let key ← readStringWithLength
  let valueLen ← readUb4
  let value ← (if valueLen > 0 then readStringWithLength else pure none)
  let flags ← readUb4
  return (key.getD "", value.getD "", flags)

/-- The part of `parse_response` that reads the payload. -/
def readPairs : ReadM (List (String × String × UInt32)) := do
  skip 2 -- data flags
  let msgType ← readU8
  if msgType = MessageType.error.code then
    throw (.authenticationFailed "Server returned error")
  let numParams ← readUb2
  times readPair numParams.toNat

namespace AuthMessage

/-- What a call does to the state: it is kept when the call fails. -/
abbrev AuthM := EStateM Error AuthMessage

variable (crypto : Crypto) (random : ℕ → Bytes)

/-- The value of an option, or an error. -/
def require {α : Type} (value : Option α) (e : Error) : AuthM α :=
  match value with
  | some a => pure a
  | none => throw e

/-- A computation that may fail. -/
def lift {α : Type} : Except Error α → AuthM α
  | .ok a => pure a
  | .error e => throw e

/-- `hex::decode` with the error of the caller. -/
def decodeHex (what s : String) : AuthM Bytes :=
  match crypto.hexDecode s with
  | .ok bytes => pure bytes
  | .error e => throw (.protocol ("Invalid " ++ what ++ ": " ++ e))

/-- `generate_12c_verifier`. -/
def generate12cVerifier (vfrData serverKey : Bytes) : AuthM Unit := do
  let msg ← get
  let iterations ← require msg.sessionData.authPbkdf2VgenCount
    (.authenticationFailed "Missing AUTH_PBKDF2_VGEN_COUNT")
  let passwordHash := crypto.generate12cPasswordHash msg.password vfrData iterations
  let partA ← lift (crypto.decryptCbc256 passwordHash serverKey)
  let partB := random partA.length
  let encryptedClientKey ← lift (crypto.encryptCbc256Pkcs7 passwordHash partB)
  modify ({ · with clientSessionKey := some encryptedClientKey })
  let cskSalt ← require msg.sessionData.authPbkdf2CskSalt
    (.authenticationFailed "Missing AUTH_PBKDF2_CSK_SALT")
  let cskSaltBytes ← decodeHex crypto "CSK_SALT hex" cskSalt
  let sderCount ← require msg.sessionData.authPbkdf2SderCount
    (.authenticationFailed "Missing AUTH_PBKDF2_SDER_COUNT")
  let comboKey ← lift (crypto.generate12cComboKey partA partB cskSaltBytes sderCount)
  modify ({ · with comboKey := some comboKey })

/-- `generate_11g_verifier`. -/
def generate11gVerifier (vfrData serverKey : Bytes) : AuthM Unit := do
  let msg ← get
  let passwordHash := crypto.generate11gPasswordHash msg.password vfrData
  let partA ← lift (crypto.decryptCbc192 passwordHash serverKey)
  let partB := random partA.length
  let encryptedClientKey ← lift (crypto.encryptCbc192 passwordHash partB)
  modify ({ · with clientSessionKey := some encryptedClientKey })
  let comboKey ← lift (crypto.generate11gComboKey partA partB)
  modify ({ · with comboKey := some comboKey })

/-- `generate_verifier`. -/
def generateVerifier : AuthM Unit := do
  let msg ← get
  let vfrData ← require msg.sessionData.authVfrData (.authenticationFailed "Missing AUTH_VFR_DATA")
  let vfrBytes ← decodeHex crypto "AUTH_VFR_DATA hex" vfrData
  let serverKey ← require msg.sessionData.authSesskey (.authenticationFailed "Missing AUTH_SESSKEY")
  let serverKeyBytes ← decodeHex crypto "AUTH_SESSKEY hex" serverKey
  if msg.verifierType = VerifierType.v12c then
    generate12cVerifier crypto random vfrBytes serverKeyBytes
  else if msg.verifierType = VerifierType.v11g1 ∨ msg.verifierType = VerifierType.v11g2 then
    generate11gVerifier crypto random vfrBytes serverKeyBytes
  else throw (.unsupportedVerifierType msg.verifierType)

/-- The check for the marker in the server's proof. -/
def checkMarker (decrypted : Bytes) : Except Error Unit :=
  if 32 ≤ decrypted.length ∧ (decrypted.drop 16).take 16 = asBytes "SERVER_TO_CLIENT" then .ok ()
  else .error (.authenticationFailed "Invalid server response")

/-- `verify_server_response`. -/
def verifyServerResponse (msg : AuthMessage) : Except Error Unit :=
  match msg.sessionData.authSvrResponse with
  | none => .ok ()
  | some response =>
    match msg.comboKey with
    | none => .error (.protocol "Combo key not available")
    | some comboKey =>
      match crypto.hexDecode response with
      | .error e => .error (.protocol ("Invalid server response hex: " ++ e))
      | .ok encrypted => do
        let decrypted ←
          (if msg.verifierType = VerifierType.v12c then crypto.decryptCbc256 comboKey encrypted
          else crypto.decryptCbc192 comboKey encrypted)
        checkMarker decrypted

/-- The state with what a payload says: its session data, and the verifier type if it has one. -/
def received (msg : AuthMessage) (pairs : List (String × String × UInt32)) : AuthMessage :=
  let map := pairs.foldl (fun map p => (p.1, p.2.1) :: map.filter (·.1 ≠ p.1)) []
  let vtype := pairs.foldl (fun vtype p => if p.1 = "AUTH_VFR_DATA" then p.2.2 else vtype) 0
  { msg with
    sessionData := SessionData.fromPairs map
    verifierType := if vtype ≠ 0 then vtype else msg.verifierType }

/-- `parse_response`. -/
def parseResponse (payload : Bytes) : AuthM Unit := do
  let pairs ← lift (readPairs.runOn payload)
  modify (·.received pairs)
  match (← get).phase with
  | .one => do
    modify ({ · with phase := .two })
    generateVerifier crypto random
  | .two => do
    modify ({ · with phase := .complete })
    lift (verifyServerResponse crypto (← get))
  | .complete => pure ()

/-- `is_complete`. -/
def isComplete (msg : AuthMessage) : Bool := msg.phase = .complete

/-! ## Failures -/

/-- From the state the operation returns an error if and only if the condition does not hold, and it
keeps the phase. -/
structure FailsUnless (m : AuthM Unit) (msg : AuthMessage) (P : Prop) : Prop where
  /-- under the condition there can only be a panic -/
  panics : P → ∀ e msg', m msg = .error e msg' → e.isPanic = true
  /-- without it an error is returned -/
  fails : ¬P → ∃ e msg', m msg = .error e msg' ∧ e.isPanic = false ∧ msg'.phase = msg.phase
  /-- the phase is kept -/
  keeps : ∀ u msg', m msg = .ok u msg' → msg'.phase = msg.phase

section FailsUnless

variable {msg : AuthMessage} {α : Type} {P : Prop}

lemma FailsUnless.get {f : AuthMessage → AuthM Unit} (h : FailsUnless (f msg) msg P) :
    FailsUnless (get >>= f) msg P := ⟨h.panics, h.fails, h.keeps⟩

lemma FailsUnless.congr {m : AuthM Unit} {Q : Prop} (h : FailsUnless m msg P) (hPQ : P ↔ Q) :
    FailsUnless m msg Q :=
  ⟨fun hQ => h.panics (hPQ.mpr hQ), fun hQ => h.fails (mt hPQ.mp hQ), h.keeps⟩

/-- An option that has to be present. -/
lemma FailsUnless.require {value : Option α} {e : Error} (he : e.isPanic = false)
    {f : α → AuthM Unit} {Q : α → Prop} (hf : ∀ a ∈ value, FailsUnless (f a) msg (Q a)) :
    FailsUnless (AuthMessage.require value e >>= f) msg (∃ a ∈ value, Q a) := by
  cases value with
  | none =>
    refine ⟨?_, fun _ => ⟨e, msg, rfl, he, rfl⟩, fun _ _ h => by cases h⟩
    rintro ⟨_, h, _⟩
    cases h
  | some a => exact (hf a rfl).congr (by simp)

/-- A computation that has to succeed. -/
lemma FailsUnless.lift {r : Except Error α} (he : ∀ e, r = .error e → e.isPanic = false)
    {f : α → AuthM Unit} {Q : α → Prop} (hf : ∀ a, r = .ok a → FailsUnless (f a) msg (Q a)) :
    FailsUnless (AuthMessage.lift r >>= f) msg (∃ a, r = .ok a ∧ Q a) := by
  cases r with
  | error e =>
    refine ⟨?_, fun _ => ⟨e, msg, rfl, he e rfl, rfl⟩, fun _ _ h => by cases h⟩
    rintro ⟨_, h, _⟩
    cases h
  | ok a => exact (hf a rfl).congr (by simp)

/-- A text that has to be hexadecimal. -/
lemma FailsUnless.decodeHex {crypto : Crypto} {what s : String} {f : Bytes → AuthM Unit}
    {Q : Bytes → Prop} (hf : ∀ b, crypto.hexDecode s = .ok b → FailsUnless (f b) msg (Q b)) :
    FailsUnless (AuthMessage.decodeHex crypto what s >>= f) msg
      (∃ b, crypto.hexDecode s = .ok b ∧ Q b) := by
  unfold AuthMessage.decodeHex
  cases hs : crypto.hexDecode s with
  | error e =>
    refine ⟨?_, fun _ => ⟨_, msg, rfl, rfl, rfl⟩, fun _ _ h => by cases h⟩
    rintro ⟨_, h, _⟩
    cases h
  | ok b => exact (hf b hs).congr (by simp)

/-- A change of the state that keeps the phase. -/
lemma FailsUnless.change {g : AuthMessage → AuthMessage} {m : AuthM Unit}
    (hg : (g msg).phase = msg.phase) (hm : FailsUnless m (g msg) P) :
    FailsUnless (modify g >>= fun _ => m) msg P := by
  refine ⟨hm.panics, fun hP => ?_, fun u msg' hrun => (hm.keeps u msg' hrun).trans hg⟩
  obtain ⟨e, msg', hrun, he, hphase⟩ := hm.fails hP
  exact ⟨e, msg', hrun, he, hphase.trans hg⟩

/-- At the end a computation that can only panic. -/
lemma FailsUnless.last {r : Except Error α} (he : ∀ e, r = .error e → e.isPanic = true)
    {g : α → AuthMessage → AuthMessage} (hg : ∀ a, (g a msg).phase = msg.phase) :
    FailsUnless (AuthMessage.lift r >>= fun a => modify (g a)) msg True := by
  cases r with
  | error e =>
    refine ⟨fun _ e' msg' h => ?_, fun h => absurd trivial h, fun _ _ h => by cases h⟩
    cases h
    exact he e rfl
  | ok a =>
    refine ⟨fun _ e' msg' h => ?_, fun h => absurd trivial h, fun u msg' h => ?_⟩
    · cases h
    · cases h
      exact hg a

end FailsUnless

/-! ## The checks of the phases -/

/-- What a 12c verifier is made of, besides the server's key. -/
def Suffices12c (data : SessionData) : Prop :=
  data.authPbkdf2VgenCount.isSome ∧ data.authPbkdf2SderCount.isSome ∧
    ∃ salt ∈ data.authPbkdf2CskSalt, ∃ b, crypto.hexDecode salt = .ok b

/-- The session data suffice for a verifier of the type. -/
def Suffices (data : SessionData) (verifierType : UInt32) : Prop :=
  (∃ vfrData ∈ data.authVfrData, ∃ b, crypto.hexDecode vfrData = .ok b) ∧
    (∃ sesskey ∈ data.authSesskey, ∃ key, crypto.hexDecode sesskey = .ok key ∧
      Crypto.FullBlocks key) ∧
    (verifierType = VerifierType.v12c ∧ Suffices12c crypto data ∨
      verifierType = VerifierType.v11g1 ∨ verifierType = VerifierType.v11g2)

/-- The 12c verifier needs a key of full blocks and its data. -/
lemma failsUnless_generate12cVerifier (msg : AuthMessage) (vfrData serverKey : Bytes) :
    FailsUnless (generate12cVerifier crypto random vfrData serverKey) msg
      (Crypto.FullBlocks serverKey ∧ Suffices12c crypto msg.sessionData) := by
  have hlen := crypto.length_generate12cPasswordHash msg.password vfrData
  refine FailsUnless.congr (.get (.require rfl fun iterations _ =>
    .lift (fun _ => Crypto.isPanic_of_decryptCbc) fun partA _ => .lift (fun e he => ?_) fun key _ =>
    .change rfl (.require rfl fun salt _ => .decodeHex fun b _ => .require rfl fun sder _ =>
    .last (fun _ => crypto.isPanic_of_generate12cComboKey) fun _ => rfl))) ?_
  · rw [Crypto.encryptCbc256Pkcs7, Crypto.encryptCbc_eq (hlen iterations)] at he
    cases he
  · constructor
    · rintro ⟨iterations, hvgen, partA, hpartA, key, -, salt, hsalt, b, hb, sder, hsder, -⟩
      exact ⟨(Crypto.exists_decryptCbc_iff (hlen iterations) serverKey).mp ⟨partA, hpartA⟩,
        Option.isSome_of_mem hvgen, Option.isSome_of_mem hsder, salt, hsalt, b, hb⟩
    · rintro ⟨hblocks, hvgen, hsder, salt, hsalt, b, hb⟩
      obtain ⟨iterations, hvgen⟩ := Option.isSome_iff_exists.mp hvgen
      obtain ⟨sder, hsder⟩ := Option.isSome_iff_exists.mp hsder
      obtain ⟨partA, hpartA⟩ := (Crypto.exists_decryptCbc_iff (hlen iterations) serverKey).mpr hblocks
      exact ⟨iterations, hvgen, partA, hpartA, _, Crypto.encryptCbc_eq (hlen iterations) _, salt,
        hsalt, b, hb, sder, hsder, trivial⟩

/-- The 11g verifier needs a key of full blocks. -/
lemma failsUnless_generate11gVerifier (msg : AuthMessage) (vfrData serverKey : Bytes) :
    FailsUnless (generate11gVerifier crypto random vfrData serverKey) msg
      (Crypto.FullBlocks serverKey) := by
  have hlen := crypto.length_generate11gPasswordHash msg.password vfrData
  refine FailsUnless.congr (.get (.lift (fun _ => Crypto.isPanic_of_decryptCbc) fun partA _ =>
    .lift (fun e he => ?_) fun key _ => .change rfl
    (.last (fun _ => crypto.isPanic_of_generate11gComboKey) fun _ => rfl))) ?_
  · rw [Crypto.encryptCbc192, Crypto.encryptCbc_eq hlen] at he
    cases he
  · constructor
    · rintro ⟨partA, hpartA, -⟩
      exact (Crypto.exists_decryptCbc_iff hlen serverKey).mp ⟨partA, hpartA⟩
    · intro hblocks
      obtain ⟨partA, hpartA⟩ := (Crypto.exists_decryptCbc_iff hlen serverKey).mpr hblocks
      exact ⟨partA, hpartA, _, Crypto.encryptCbc_eq hlen _, trivial⟩

/-- A verifier is generated, or the source panics, if and only if the session data suffice. -/
lemma failsUnless_generateVerifier (msg : AuthMessage) :
    FailsUnless (generateVerifier crypto random) msg
      (Suffices crypto msg.sessionData msg.verifierType) := by
  have hverifier (vfrBytes serverKey : Bytes) : FailsUnless
      (if msg.verifierType = VerifierType.v12c then
          generate12cVerifier crypto random vfrBytes serverKey
        else if msg.verifierType = VerifierType.v11g1 ∨ msg.verifierType = VerifierType.v11g2 then
          generate11gVerifier crypto random vfrBytes serverKey
        else throw (.unsupportedVerifierType msg.verifierType)) msg
      (Crypto.FullBlocks serverKey ∧
        (msg.verifierType = VerifierType.v12c ∧ Suffices12c crypto msg.sessionData ∨
          msg.verifierType = VerifierType.v11g1 ∨ msg.verifierType = VerifierType.v11g2)) := by
    split_ifs with h12c h11g
    · refine (failsUnless_generate12cVerifier crypto random msg vfrBytes serverKey).congr ?_
      simp [h12c, VerifierType.v12c, VerifierType.v11g1, VerifierType.v11g2]
    · refine (failsUnless_generate11gVerifier crypto random msg vfrBytes serverKey).congr ?_
      simp [h12c, h11g]
    · refine ⟨fun h => ?_, fun _ => ⟨_, msg, rfl, rfl, rfl⟩, fun _ _ h => by cases h⟩
      rcases h.2 with ⟨h, -⟩ | h
      · exact absurd h h12c
      · exact absurd h h11g
  refine FailsUnless.congr (.get (.require rfl fun vfrData _ => .decodeHex fun vfrBytes _ =>
    .require rfl fun sesskey _ => .decodeHex fun serverKey _ => hverifier vfrBytes serverKey)) ?_
  constructor
  · rintro ⟨vfrData, hvfr, vfrBytes, hvfrBytes, sesskey, hsesskey, key, hkey, hblocks, htype⟩
    exact ⟨⟨vfrData, hvfr, vfrBytes, hvfrBytes⟩, ⟨sesskey, hsesskey, key, hkey, hblocks⟩, htype⟩
  · rintro ⟨⟨vfrData, hvfr, vfrBytes, hvfrBytes⟩, ⟨sesskey, hsesskey, key, hkey, hblocks⟩, htype⟩
    exact ⟨vfrData, hvfr, vfrBytes, hvfrBytes, sesskey, hsesskey, key, hkey, hblocks, htype⟩

/-- The proof of the server is refused, never with a panic. -/
lemma isPanic_of_verifyServerResponse {msg : AuthMessage} {e : Error}
    (h : verifyServerResponse crypto msg = .error e) : e.isPanic = false := by
  unfold verifyServerResponse at h
  split at h
  · cases h
  split at h
  · cases h
    rfl
  split at h
  · cases h
    rfl
  next comboKey _ _ encrypted _ =>
    cases hr : if msg.verifierType = VerifierType.v12c then crypto.decryptCbc256 comboKey encrypted
        else crypto.decryptCbc192 comboKey encrypted with
    | error e' =>
      rw [hr] at h
      cases h
      split_ifs at hr <;> exact Crypto.isPanic_of_decryptCbc hr
    | ok decrypted =>
      rw [hr] at h
      change checkMarker decrypted = .error e at h
      unfold checkMarker at h
      split_ifs at h
      cases h
      rfl

/-! ## Calls -/

/-- The response passes the check of its phase: in phase one its session data suffice for a verifier,
in phase two the server's proof, if there is one, is right. -/
def ResponseUsable (msg : AuthMessage) (payload : Bytes) : Prop :=
  ∀ pairs, readPairs.runOn payload = .ok pairs →
    (msg.phase = .one →
      Suffices crypto (msg.received pairs).sessionData (msg.received pairs).verifierType) ∧
    (msg.phase = .two → verifyServerResponse crypto (msg.received pairs) = .ok ())

/-- If the call returns an error, the state is what it was before. -/
def KeepsOnError (msg : AuthMessage) (payload : Bytes) : Prop :=
  ∀ e msg', parseResponse crypto random payload msg = .error e msg' → e.isPanic = false → msg' = msg

/-- A payload that cannot be read changes nothing. -/
lemma parseResponse_of_error {msg : AuthMessage} {payload : Bytes} {e : Error}
    (h : readPairs.runOn payload = .error e) :
    parseResponse crypto random payload msg = .error e msg := by
  rw [parseResponse, h]
  rfl

section

variable {msg : AuthMessage} {payload : Bytes} {pairs : List (String × String × UInt32)}

/-- Phase one ends before the verifier is generated. -/
lemma parseResponse_of_one (h : readPairs.runOn payload = .ok pairs) (hphase : msg.phase = .one) :
    parseResponse crypto random payload msg =
      generateVerifier crypto random { msg.received pairs with phase := .two } := by
  have hphase' : (msg.received pairs).phase = .one := hphase
  rw [parseResponse, h]
  show (match (msg.received pairs).phase with
    | .one => _
    | .two => _
    | .complete => _ : AuthM Unit) (msg.received pairs) = _
  rw [hphase']
  rfl

/-- Phase two ends before the proof of the server is verified. -/
lemma parseResponse_of_two (h : readPairs.runOn payload = .ok pairs) (hphase : msg.phase = .two) :
    parseResponse crypto random payload msg =
      lift (verifyServerResponse crypto (msg.received pairs))
        { msg.received pairs with phase := .complete } := by
  have hphase' : (msg.received pairs).phase = .two := hphase
  rw [parseResponse, h]
  show (match (msg.received pairs).phase with
    | .one => _
    | .two => _
    | .complete => _ : AuthM Unit) (msg.received pairs) = _
  rw [hphase']
  rfl

/-- Afterwards only the session data change. -/
lemma parseResponse_of_complete (h : readPairs.runOn payload = .ok pairs)
    (hphase : msg.phase = .complete) :
    parseResponse crypto random payload msg = .ok () (msg.received pairs) := by
  have hphase' : (msg.received pairs).phase = .complete := hphase
  rw [parseResponse, h]
  show (match (msg.received pairs).phase with
    | .one => _
    | .two => _
    | .complete => _ : AuthM Unit) (msg.received pairs) = _
  rw [hphase']
  rfl

end

/-- A call that fails leaves the state as it was if and only if what the response says passes the check
of its phase. -/
lemma keepsOnError_iff (msg : AuthMessage) (payload : Bytes) :
    KeepsOnError crypto random msg payload ↔ ResponseUsable crypto msg payload := by
  cases hread : readPairs.runOn payload with
  | error e =>
    refine iff_of_true (fun e' msg' h _ => ?_) fun pairs h => by rw [hread] at h; cases h
    rw [parseResponse_of_error crypto random hread] at h
    cases h
    rfl
  | ok pairs =>
    have husable : ResponseUsable crypto msg payload ↔ (msg.phase = .one →
        Suffices crypto (msg.received pairs).sessionData (msg.received pairs).verifierType) ∧
        (msg.phase = .two → verifyServerResponse crypto (msg.received pairs) = .ok ()) := by
      simp [ResponseUsable, hread]
    rw [husable, KeepsOnError]
    cases hphase : msg.phase with
    | one =>
      rw [parseResponse_of_one crypto random hread hphase]
      have hspec := failsUnless_generateVerifier crypto random
        { msg.received pairs with phase := .two }
      simp only [reduceCtorEq, false_imp_iff, and_true, true_imp_iff]
      constructor
      · intro hkeeps
        by_contra hnot
        obtain ⟨e, msg', hrun, he, hphase'⟩ := hspec.fails hnot
        rw [hkeeps e msg' hrun he, hphase] at hphase'
        cases hphase'
      · intro hsuffices e msg' hrun he
        rw [hspec.panics hsuffices e msg' hrun] at he
        cases he
    | two =>
      rw [parseResponse_of_two crypto random hread hphase]
      simp only [reduceCtorEq, false_imp_iff, true_and, true_imp_iff]
      cases hverify : verifyServerResponse crypto (msg.received pairs) with
      | error e =>
        refine iff_of_false (fun hkeeps => ?_) fun h => by cases h
        have hsame := hkeeps e _ rfl (isPanic_of_verifyServerResponse crypto hverify)
        have hcomplete : AuthPhase.complete = msg.phase := congrArg AuthMessage.phase hsame
        rw [hphase] at hcomplete
        cases hcomplete
      | ok _ => exact iff_of_true (fun e msg' h => by cases h) rfl
    | complete =>
      rw [parseResponse_of_complete crypto random hread hphase]
      refine iff_of_true (fun e msg' h => by cases h) (And.intro ?_ ?_) <;> intro h <;> cases h

/-! ## Sequences of calls -/

/-- A call in a sequence: the response of the server, and the random numbers that are drawn. Behind a
panic there are no more calls. -/
def call (msg : AuthMessage) (event : Bytes × (ℕ → Bytes)) : Option AuthMessage :=
  match parseResponse crypto event.2 event.1 msg with
  | .ok _ msg' => some msg'
  | .error e msg' => if e.isPanic then none else some msg'

/-- The call is one of phase two, it returns `Ok`, and the proof of the server, if there is one, has
been verified. -/
def Authenticates (msg : AuthMessage) (event : Bytes × (ℕ → Bytes)) : Prop :=
  msg.phase = .two ∧ ∃ msg', parseResponse crypto event.2 event.1 msg = .ok () msg' ∧
    verifyServerResponse crypto msg' = .ok ()

/-- The sequences of calls with usable responses. -/
abbrev Calls : AuthMessage → List (Bytes × (ℕ → Bytes)) → AuthMessage → Prop :=
  Machine.Run (call crypto) fun msg event => ResponseUsable crypto msg event.1

/-- A call that completes the authentication is one of phase two that returns `Ok`. -/
lemma authenticates_of_complete {msg msg' : AuthMessage} {event : Bytes × (ℕ → Bytes)}
    (husable : ResponseUsable crypto msg event.1) (hcall : call crypto msg event = some msg')
    (hbefore : msg.phase ≠ .complete) (hafter : msg'.phase = .complete) :
    Authenticates crypto msg event := by
  obtain ⟨payload, random⟩ := event
  cases hread : readPairs.runOn payload with
  | error e =>
    simp only [call, parseResponse_of_error crypto random hread] at hcall
    split_ifs at hcall
    cases hcall
    exact absurd hafter hbefore
  | ok pairs =>
    obtain ⟨hone, htwo⟩ := husable pairs hread
    cases hphase : msg.phase with
    | one =>
      -- the verifier is generated in phase two, and keeps it
      have hspec := failsUnless_generateVerifier crypto random
        { msg.received pairs with phase := .two }
      simp only [call, parseResponse_of_one crypto random hread hphase] at hcall
      cases hrun : generateVerifier crypto random { msg.received pairs with phase := .two } with
      | error e msg₁ =>
        rw [hrun] at hcall
        simp only [hspec.panics (hone hphase) e msg₁ hrun, if_true] at hcall
        cases hcall
      | ok u msg₁ =>
        rw [hrun] at hcall
        cases hcall
        rw [hspec.keeps u msg' hrun] at hafter
        cases hafter
    | two =>
      refine ⟨hphase, { msg.received pairs with phase := .complete }, ?_, htwo hphase⟩
      rw [parseResponse_of_two crypto random hread hphase, htwo hphase]
      rfl
    | complete => exact absurd hphase hbefore

/-- A call that returns an error leaves the state as it was if and only if what the response says passes
the check of its phase; and in every sequence of calls with such responses the authentication is
completed only by a call of phase two that returns `Ok`, having verified the proof of the server. -/
theorem advances_only_on_success (crypto : Crypto) :
    (∀ random msg payload,
      KeepsOnError crypto random msg payload ↔ ResponseUsable crypto msg payload) ∧
    ∀ msg events msg', Calls crypto msg events msg' → msg.phase ≠ .complete →
      msg'.phase = .complete → ∃ before event after msg₁ msg₂, events = before ++ event :: after ∧
        Calls crypto msg before msg₁ ∧ Authenticates crypto msg₁ event ∧
        call crypto msg₁ event = some msg₂ ∧ Calls crypto msg₂ after msg' := by
  refine ⟨keepsOnError_iff crypto, fun msg events msg' hrun hbefore hafter => ?_⟩
  obtain ⟨before, event, after, msg₁, msg₂, rfl, hrun₁, husable, hcall, hrun₂, hbefore', hafter'⟩ :=
    hrun.exists_step (P := fun msg => msg.phase = .complete) hbefore hafter
  exact ⟨before, event, after, msg₁, msg₂, rfl, hrun₁,
    authenticates_of_complete crypto husable hcall hbefore' hafter', hcall, hrun₂⟩

/-- A response without any pairs: only the data flags, the message type and their number. -/
def emptyResponse : Bytes := [0, 0, 8, 0]

/-- A response with a proof of the server, `00`. -/
def proofResponse : Bytes :=
  [0, 0, 8, 1, 1, 0, 17] ++ asBytes "AUTH_SVR_RESPONSE" ++ [1, 2, 2] ++ asBytes "00" ++ [0]

/-- In phase two the empty response completes the authentication. -/
theorem advances_emptyResponse : ∃ msg', ∃ before event after msg₁ msg₂,
    [(emptyResponse, fun n => List.replicate n 0)] = before ++ event :: after ∧
      Calls .zeros { password := [], phase := .two } before msg₁ ∧ Authenticates .zeros msg₁ event ∧
      call .zeros msg₁ event = some msg₂ ∧ Calls .zeros msg₂ after msg' := by
  have husable : ResponseUsable .zeros { password := [], phase := .two } emptyResponse := by
    intro pairs hpairs
    obtain rfl : [] = pairs := Except.ok.inj hpairs
    exact ⟨fun h => (by cases h), fun _ => rfl⟩
  exact ⟨_, (advances_only_on_success .zeros).2 _ _ _ (.cons husable rfl (.nil _)) (by decide) rfl⟩

/-- In phase one the empty response is refused, and the state is that of phase two; there a proof that
cannot be verified is refused, and the authentication is complete. -/
theorem not_advances_only_on_success :
    (¬∀ crypto random msg payload, KeepsOnError crypto random msg payload) ∧
    ¬∀ crypto msg events msg',
      Machine.Run (call crypto) (fun _ _ => True) msg events msg' → msg.phase ≠ .complete →
        msg'.phase = .complete → ∃ before event after msg₁, events = before ++ event :: after ∧
          Machine.Run (call crypto) (fun _ _ => True) msg before msg₁ ∧
          Authenticates crypto msg₁ event := by
  constructor
  · intro hall
    have hsame := hall .zeros (fun n => List.replicate n 0) { password := [] } emptyResponse
      (.authenticationFailed "Missing AUTH_VFR_DATA") { password := [], phase := .two } rfl rfl
    cases hsame
  · intro hall
    have hread : readPairs.runOn proofResponse = .ok [("AUTH_SVR_RESPONSE", "00", 0)] := by
      decide +kernel
    have hrun : parseResponse .zeros (fun n => List.replicate n 0) proofResponse
        { password := [], phase := .two } = .error (.protocol "Combo key not available")
          { password := [], phase := .complete, sessionData := { authSvrResponse := "00" } } := by
      rw [parseResponse_of_two _ _ hread rfl]
      rfl
    have hcall : call .zeros { password := [], phase := .two }
        (proofResponse, fun n => List.replicate n 0) = some
          { password := [], phase := .complete, sessionData := { authSvrResponse := "00" } } := by
      simp only [call, hrun]
      rfl
    obtain ⟨before, event, after, msg₁, hevents, hbefore, -, msg₂, hok, -⟩ :=
      hall .zeros _ _ _ (.cons trivial hcall (.nil _)) (by decide) rfl
    cases before with
    | nil =>
      cases hbefore
      cases hevents
      rw [hrun] at hok
      cases hok
    | cons e before => simp at hevents

end AuthMessage

end OracleRs
