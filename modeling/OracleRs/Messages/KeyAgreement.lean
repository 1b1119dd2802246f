import OracleRs.Messages.AuthPanics
import OracleRs.Messages.AuthRequests

set_option relaxedAutoImplicit false
set_option autoImplicit false

/-!
# Key agreement

The whole exchange of the authentication between the client and a server that knows the same password. The
server's challenge has its part of the session key, encrypted with the password hash; the client's second
request has the client's part, and the password encrypted with the combo key of both parts. The request cuts
the encrypted part and the speedy key, and in CBC mode what is left decrypts to what stood there.

The server is stated here from what the client expects of it; the client is that of the source.

## Main definitions

* `OracleRs.Crypto.Lawful` — what the primitives satisfy.
* `OracleRs.Challenge` — what the server sends first, `OracleRs.Challenge.SentIn` — pairs that say so.
* `OracleRs.Challenge.serverComboKey`, `OracleRs.Challenge.serverPassword` — what the server computes.

## Main results

* `OracleRs.Challenge.agrees` — the parties agree on the combo key, the server reads the password, and the
  client accepts the server's proof.
-/

namespace OracleRs

/-! ## Primitives -/

namespace Crypto

/-- What the libraries satisfy: hexadecimal digits byte by byte, CBC mode block by block, and the lengths of
the derived keys. -/
structure Lawful (crypto : Crypto) : Prop extends crypto.Inverts where
  /-- digits are decoded -/
  decode_encode : ∀ b, crypto.hexDecode (crypto.hexEncodeUpper b) = .ok b
  /-- bytes are encoded one behind the other -/
  encode_append : ∀ b b', (crypto.hexEncodeUpper (b ++ b')).toList =
    (crypto.hexEncodeUpper b).toList ++ (crypto.hexEncodeUpper b').toList
  /-- a byte has two digits -/
  length_encode : ∀ b, (crypto.hexEncodeUpper b).toList.length = 2 * b.length
  /-- a digit has one byte -/
  length_asBytes : ∀ b, (asBytes (crypto.hexEncodeUpper b)).length = 2 * b.length
  /-- AES-256, the first blocks -/
  take256 : ∀ key blocks n, key.length = 32 → FullBlocks blocks → 16 ∣ n →
    crypto.aes256CbcDec key (blocks.take n) = (crypto.aes256CbcDec key blocks).take n
  /-- AES-192, the first blocks -/
  take192 : ∀ key blocks n, key.length = 24 → FullBlocks blocks → 16 ∣ n →
    crypto.aes192CbcDec key (blocks.take n) = (crypto.aes192CbcDec key blocks).take n
  /-- a derived key has the length that is asked for -/
  length_pbkdf2 : ∀ password salt iterations n,
    (crypto.pbkdf2HmacSha512 password salt iterations n).length = n
  /-- an MD5 hash has 16 bytes -/
  length_md5 : ∀ data, (crypto.md5 data).length = 16

variable {crypto : Crypto}

/-- The first digits are those of the first bytes. -/
lemma Lawful.take_encode (h : crypto.Lawful) (b : Bytes) (n : ℕ) :
    String.ofList ((crypto.hexEncodeUpper b).toList.take (2 * n)) = crypto.hexEncodeUpper (b.take n) := by
  have happend := h.encode_append (b.take n) (b.drop n)
  rw [List.take_append_drop] at happend
  have htake := h.length_encode (b.take n)
  have hdrop := h.length_encode (b.drop n)
  rw [List.length_take] at htake
  rw [List.length_drop] at hdrop
  have hdigits : (crypto.hexEncodeUpper b).toList.take (2 * n) = (crypto.hexEncodeUpper (b.take n)).toList := by
    rw [happend]
    rcases Nat.le_total n b.length with hle | hle
    · exact List.take_left' (by omega)
    · rw [List.eq_nil_of_length_eq_zero (l := (crypto.hexEncodeUpper (b.drop n)).toList) (by omega),
        List.append_nil]
      exact List.take_of_length_le (by omega)
  rw [hdigits, String.ofList_toList]

/-! ### Primitives that are lawful -/

/-- An upper-case hexadecimal digit. -/
def hexChar (n : ℕ) : Char := if n < 10 then Char.ofNat (48 + n) else Char.ofNat (55 + n)

/-- Both digits of a byte. -/
def hexChars (b : UInt8) : List Char := [hexChar (b.toNat / 16), hexChar (b.toNat % 16)]

/-- The upper-case digits of bytes. -/
def hexText (b : Bytes) : String := String.ofList (b.flatMap hexChars)

lemma hexChar_spec : ∀ n < 16, (hexChar n).toNat < 128 ∧
    AuthMessage.hexDigit (UInt8.ofNat (hexChar n).toNat) = some (UInt8.ofNat n) := by
  decide

/-- The digits as bytes. -/
lemma asBytes_hexText (b : Bytes) : asBytes (hexText b) =
    (b.flatMap hexChars).map fun c => UInt8.ofNat c.toNat := by
  refine asBytes_ofList fun c hc => ?_
  obtain ⟨x, -, hc⟩ := List.mem_flatMap.mp hc
  have hlt := x.toNat_lt
  rcases List.mem_cons.mp hc with rfl | hc
  · exact (hexChar_spec _ (by omega)).1
  · obtain rfl := List.mem_singleton.mp hc
    exact (hexChar_spec _ (by omega)).1

lemma hexBytes_hexText (b : Bytes) : AuthMessage.hexBytes (asBytes (hexText b)) = .ok b := by
  rw [asBytes_hexText]
  induction b with
  | nil => rfl
  | cons x b ih =>
    have hlt := x.toNat_lt
    have hhigh := (hexChar_spec (x.toNat / 16) (by omega)).2
    have hlow := (hexChar_spec (x.toNat % 16) (by omega)).2
    have hbyte : 16 * UInt8.ofNat (x.toNat / 16) + UInt8.ofNat (x.toNat % 16) = x := by
      apply UInt8.toNat_inj.mp
      simp only [UInt8.toNat_add, UInt8.toNat_mul, UInt8.toNat_ofNat', UInt8.reduceToNat]
      omega
    simp only [List.flatMap_cons, hexChars, List.cons_append, List.nil_append, List.map_cons,
      AuthMessage.hexBytes, hhigh, hlow]
    rw [ih, hbyte]
    rfl

/-- Primitives that are lawful: hexadecimal digits, and a cipher that is its own inverse. -/
def lawfulCrypto : Crypto :=
  { xorCrypto with
    hexDecode := fun s => AuthMessage.hexBytes (asBytes s)
    hexEncodeUpper := hexText
    pbkdf2HmacSha512 := fun _ _ _ n => List.replicate n 90 }

lemma length_flatMap_hexChars (b : Bytes) : (b.flatMap hexChars).length = 2 * b.length := by
  induction b with
  | nil => rfl
  | cons x b ih =>
    rw [List.flatMap_cons, List.length_append, ih, List.length_cons]
    simp only [hexChars, List.length_cons, List.length_nil]
    omega

lemma xorCipher_take (key blocks : Bytes) (n : ℕ) :
    xorCipher key (blocks.take n) = (xorCipher key blocks).take n := List.map_take

lemma lawful_lawfulCrypto : lawfulCrypto.Lawful where
  length256 := inverts_xorCrypto.length256
  inverse256 := inverts_xorCrypto.inverse256
  length192 := inverts_xorCrypto.length192
  inverse192 := inverts_xorCrypto.inverse192
  decode_encode := hexBytes_hexText
  encode_append b b' := by
    show (hexText (b ++ b')).toList = _
    rw [hexText, String.toList_ofList, List.flatMap_append]
    exact congrArg₂ (· ++ ·) String.toList_ofList.symm String.toList_ofList.symm
  length_encode b := by
    show (hexText b).toList.length = _
    rw [hexText, String.toList_ofList, length_flatMap_hexChars]
  length_asBytes b := by
    show (asBytes (hexText b)).length = _
    rw [asBytes_hexText, List.length_map, length_flatMap_hexChars]
  take256 key blocks n _ _ _ := xorCipher_take key blocks n
  take192 key blocks n _ _ _ := xorCipher_take key blocks n
  length_pbkdf2 _ _ _ _ := List.length_replicate
  length_md5 _ := List.length_replicate

end Crypto

/-! ## The challenge -/

/-- What a server sends first. -/
structure Challenge where
  /-- the type of the verifier -/
  verifierType : UInt32
  /-- the verifier data -/
  vfrData : Bytes
  /-- the server's part of the session key -/
  partA : Bytes
  /-- the CSK salt -/
  cskSalt : Bytes
  /-- the iterations for the password key -/
  vgenCount : UInt32
  /-- the iterations for the combo key -/
  sderCount : UInt32
deriving DecidableEq, Repr, Inhabited

namespace Challenge

variable (challenge : Challenge) (crypto : Crypto)

/-- The type is one that the client supports, and the part of the key is long enough for a combo key. -/
structure Legal : Prop where
  /-- the type -/
  type : challenge.verifierType = VerifierType.v12c ∨ challenge.verifierType = VerifierType.v11g1 ∨
    challenge.verifierType = VerifierType.v11g2
  /-- full blocks -/
  blocks : Crypto.FullBlocks challenge.partA
  /-- the length -/
  long : AuthMessage.comboLen challenge.verifierType ≤ challenge.partA.length

/-- The hash of the password. -/
def passwordHash (password : Bytes) : Bytes :=
  if challenge.verifierType = VerifierType.v12c then
    crypto.generate12cPasswordHash password challenge.vfrData challenge.vgenCount
  else crypto.generate11gPasswordHash password challenge.vfrData

/-- The length of the keys. -/
def keyLen : ℕ := if challenge.verifierType = VerifierType.v12c then 32 else 24

/-- The cipher, encryption of full blocks. -/
def encrypt (key blocks : Bytes) : Bytes :=
  if challenge.verifierType = VerifierType.v12c then crypto.aes256CbcEnc key blocks
  else crypto.aes192CbcEnc key blocks

/-- The cipher, decryption of full blocks. -/
def decrypt (key blocks : Bytes) : Bytes :=
  if challenge.verifierType = VerifierType.v12c then crypto.aes256CbcDec key blocks
  else crypto.aes192CbcDec key blocks

/-- The combo key of both parts. -/
def comboKey (partB : Bytes) : Except Error Bytes :=
  if challenge.verifierType = VerifierType.v12c then
    crypto.generate12cComboKey challenge.partA partB challenge.cskSalt challenge.sderCount
  else crypto.generate11gComboKey challenge.partA partB

/-- The pairs have the challenge, for a user with the password; no key is there twice. -/
structure SentIn (password : Bytes) (pairs : List (String × String × UInt32)) : Prop where
  /-- no key is there twice -/
  nodup : (pairs.map (·.1)).Nodup
  /-- the server's part, encrypted with the hash of the password -/
  sesskey : ∃ text flags, ("AUTH_SESSKEY", text, flags) ∈ pairs ∧ crypto.hexDecode text =
    .ok (challenge.encrypt crypto (challenge.passwordHash crypto password) challenge.partA)
  /-- the verifier data, with their type -/
  vfrData : ∃ text, ("AUTH_VFR_DATA", text, challenge.verifierType) ∈ pairs ∧
    crypto.hexDecode text = .ok challenge.vfrData
  /-- the iterations for the password key -/
  vgenCount : challenge.verifierType = VerifierType.v12c → ∃ text flags,
    ("AUTH_PBKDF2_VGEN_COUNT", text, flags) ∈ pairs ∧ parseU32 text = some challenge.vgenCount
  /-- the salt -/
  cskSalt : challenge.verifierType = VerifierType.v12c → ∃ text flags,
    ("AUTH_PBKDF2_CSK_SALT", text, flags) ∈ pairs ∧ crypto.hexDecode text = .ok challenge.cskSalt
  /-- the iterations for the combo key -/
  sderCount : challenge.verifierType = VerifierType.v12c → ∃ text flags,
    ("AUTH_PBKDF2_SDER_COUNT", text, flags) ∈ pairs ∧ parseU32 text = some challenge.sderCount

/-! ## The server -/

/-- The value of a key. -/
def lookup (pairs : List (String × String × UInt32)) (key : String) : Option String :=
  (pairs.find? fun pair => pair.1 = key).map fun pair => pair.2.1

/-- What an encrypted value says. -/
def openValue (key : Bytes) (pairs : List (String × String × UInt32)) (name : String) : Option Bytes := do
  let text ← lookup pairs name
  let blocks ← (crypto.hexDecode text).toOption
  return challenge.decrypt crypto key blocks

/-- The combo key that the server computes. -/
def serverComboKey (password : Bytes) (pairs : List (String × String × UInt32)) : Option Bytes := do
  let partB ← challenge.openValue crypto (challenge.passwordHash crypto password) pairs "AUTH_SESSKEY"
  (challenge.comboKey crypto partB).toOption

/-- The password that the server reads behind the salt. -/
def serverPassword (comboKey : Bytes) (pairs : List (String × String × UInt32)) : Option Bytes := do
  let padded ← challenge.openValue crypto comboKey pairs "AUTH_PASSWORD"
  return (Padding.unpad padded).drop 16

/-- The password key that the server reads behind the salt. -/
def serverPasswordKey (comboKey : Bytes) (pairs : List (String × String × UInt32)) : Option Bytes := do
  let salted ← challenge.openValue crypto comboKey pairs "AUTH_PBKDF2_SPEEDY_KEY"
  return salted.drop 16

/-! ## The cipher -/

section Cipher

variable {challenge crypto} {key blocks : Bytes}

variable (challenge crypto) in
lemma length_passwordHash (password : Bytes) :
    (challenge.passwordHash crypto password).length = challenge.keyLen := by
  unfold passwordHash keyLen
  split_ifs
  · exact crypto.length_generate12cPasswordHash password _ _
  · exact crypto.length_generate11gPasswordHash password _

lemma length_encrypt (hcrypto : crypto.Lawful) (hkey : key.length = challenge.keyLen)
    (hblocks : Crypto.FullBlocks blocks) : (challenge.encrypt crypto key blocks).length = blocks.length := by
  unfold encrypt
  unfold keyLen at hkey
  split_ifs at hkey ⊢
  · exact hcrypto.length256 key blocks hkey hblocks
  · exact hcrypto.length192 key blocks hkey hblocks

lemma decrypt_encrypt (hcrypto : crypto.Lawful) (hkey : key.length = challenge.keyLen)
    (hblocks : Crypto.FullBlocks blocks) :
    challenge.decrypt crypto key (challenge.encrypt crypto key blocks) = blocks := by
  unfold encrypt decrypt
  unfold keyLen at hkey
  split_ifs at hkey ⊢
  · exact hcrypto.inverse256 key blocks hkey hblocks
  · exact hcrypto.inverse192 key blocks hkey hblocks

/-- Encrypted blocks are full blocks. -/
lemma fullBlocks_encrypt (hcrypto : crypto.Lawful) (hkey : key.length = challenge.keyLen)
    (hblocks : Crypto.FullBlocks blocks) : Crypto.FullBlocks (challenge.encrypt crypto key blocks) := by
  have hlen := length_encrypt hcrypto hkey hblocks
  refine ⟨List.ne_nil_of_length_pos ?_, ?_⟩
  · rw [hlen]
    exact List.length_pos_of_ne_nil hblocks.1
  · rw [hlen]
    exact hblocks.2

/-- The first blocks decrypt to the first blocks. -/
lemma decrypt_take (hcrypto : crypto.Lawful) (hkey : key.length = challenge.keyLen)
    (hblocks : Crypto.FullBlocks blocks) {n : ℕ} (hn : 16 ∣ n) :
    challenge.decrypt crypto key ((challenge.encrypt crypto key blocks).take n) = blocks.take n := by
  have hcipher := fullBlocks_encrypt hcrypto hkey hblocks
  have hinverse := decrypt_encrypt hcrypto hkey hblocks
  unfold encrypt at hcipher hinverse ⊢
  unfold decrypt at hinverse ⊢
  unfold keyLen at hkey
  split_ifs at hkey hcipher hinverse ⊢
  · rw [hcrypto.take256 key _ n hkey hcipher hn, hinverse]
  · rw [hcrypto.take192 key _ n hkey hcipher hn, hinverse]

lemma fullBlocks_pad (plaintext : Bytes) : Crypto.FullBlocks (Crypto.pad plaintext) := by
  rw [Crypto.pad_eq]
  exact ⟨Padding.pad_ne_nil (by decide) plaintext,
    Nat.mod_eq_zero_of_dvd (Padding.dvd_length_pad (by decide) plaintext)⟩

/-- What is decrypted from a padded text. -/
lemma unpad_decrypt (hcrypto : crypto.Lawful) (hkey : key.length = challenge.keyLen) (plaintext : Bytes) :
    Padding.unpad (challenge.decrypt crypto key (challenge.encrypt crypto key (Crypto.pad plaintext))) =
      plaintext := by
  rw [decrypt_encrypt hcrypto hkey (fullBlocks_pad plaintext), Crypto.pad_eq]
  exact Padding.unpad_pad (by decide) (by decide) plaintext

variable (crypto) in
/-- The encryption of the client. -/
lemma encryptCbc_eq (hkey : key.length = challenge.keyLen) (plaintext : Bytes) :
    (if challenge.verifierType = VerifierType.v12c then crypto.encryptCbc256Pkcs7 key plaintext
      else crypto.encryptCbc192 key plaintext) = .ok (challenge.encrypt crypto key (Crypto.pad plaintext)) := by
  unfold encrypt
  unfold keyLen at hkey
  split_ifs at hkey ⊢
  · exact Crypto.encryptCbc_eq hkey plaintext
  · exact Crypto.encryptCbc_eq hkey plaintext

variable (crypto) in
/-- The decryption of the client. -/
lemma decryptCbc_eq (hkey : key.length = challenge.keyLen) (hblocks : Crypto.FullBlocks blocks) :
    (if challenge.verifierType = VerifierType.v12c then crypto.decryptCbc256 key blocks
      else crypto.decryptCbc192 key blocks) = .ok (challenge.decrypt crypto key blocks) := by
  unfold decrypt
  unfold keyLen at hkey
  split_ifs at hkey ⊢
  · exact Crypto.decryptCbc_eq hkey hblocks
  · exact Crypto.decryptCbc_eq hkey hblocks

end Cipher

/-! ## The combo key -/

/-- The bytes of the client's part that the second request keeps. -/
def keptLen : ℕ := if challenge.verifierType = VerifierType.v12c then 32 else 48

section ComboKey

variable {challenge crypto}

lemma keyPart_eq {start len : ℕ} {part : Bytes} (h : start + len ≤ part.length) :
    Crypto.keyPart start len part = .ok ((part.drop start).take len) := by
  rw [Crypto.keyPart, if_neg (by omega)]

/-- A range is not changed by what is cut behind it. -/
lemma keyPart_take {start len n : ℕ} {part : Bytes} (hn : start + len ≤ n) (hle : n ≤ part.length) :
    Crypto.keyPart start len (part.take n) = Crypto.keyPart start len part := by
  have hlen : (part.take n).length = n := by rw [List.length_take, Nat.min_eq_left hle]
  rw [keyPart_eq (by omega), keyPart_eq (by omega), List.drop_take, List.take_take,
    Nat.min_eq_left (by omega)]

/-- Parts that are long enough have a combo key. -/
lemma exists_comboKey (hcrypto : crypto.Lawful) (hlegal : challenge.Legal) {partB : Bytes}
    (hlen : partB.length = challenge.partA.length) :
    ∃ key, challenge.comboKey crypto partB = .ok key ∧ key.length = challenge.keyLen := by
  have hlong := hlegal.long
  unfold AuthMessage.comboLen at hlong
  unfold comboKey keyLen
  split_ifs at hlong ⊢
  · exact ⟨_, by rw [Crypto.generate12cComboKey, keyPart_eq (by omega), keyPart_eq (by omega)]; rfl,
      hcrypto.length_pbkdf2 _ _ _ _⟩
  · refine ⟨_, by rw [Crypto.generate11gComboKey, keyPart_eq (by omega), keyPart_eq (by omega)]; rfl, ?_⟩
    rw [List.length_take, List.length_append, hcrypto.length_md5, hcrypto.length_md5]
    rfl

/-- The combo key needs only the bytes that the second request keeps. -/
lemma comboKey_take {partB : Bytes} (hlen : challenge.keptLen ≤ partB.length) :
    challenge.comboKey crypto (partB.take challenge.keptLen) = challenge.comboKey crypto partB := by
  unfold keptLen at hlen ⊢
  unfold comboKey
  split_ifs at hlen ⊢
  · rw [Crypto.generate12cComboKey, Crypto.generate12cComboKey, keyPart_take (by omega) hlen]
  · rw [Crypto.generate11gComboKey, Crypto.generate11gComboKey, keyPart_take (by omega) hlen]

/-- Both parts are long enough for that. -/
lemma keptLen_le (hlegal : challenge.Legal) : challenge.keptLen ≤ challenge.partA.length := by
  have hlong := hlegal.long
  have hmod := hlegal.blocks.2
  unfold AuthMessage.comboLen at hlong
  unfold keptLen
  split_ifs at hlong ⊢
  · exact hlong
  · omega

end ComboKey

/-! ## Maps of pairs -/

section Pairs

variable {σ π α κ : Type} {step : σ → π → σ} {field : σ → α} {key : π → κ} {k : κ}

/-- Steps with other keys keep a field. -/
lemma foldl_keeps (hother : ∀ s p, key p ≠ k → field (step s p) = field s) {l : List π}
    (hl : k ∉ l.map key) (s : σ) : field (l.foldl step s) = field s := by
  induction l generalizing s with
  | nil => rfl
  | cons p l ih =>
    rw [List.map_cons, List.mem_cons, not_or] at hl
    rw [List.foldl_cons, ih hl.2, hother s p (Ne.symm hl.1)]

/-- The step with the key decides about the field, if no key is there twice. -/
lemma foldl_of_mem (hother : ∀ s p, key p ≠ k → field (step s p) = field s) {p : π} {a : α}
    (hp : key p = k) (hsame : ∀ s, field (step s p) = a) {l : List π} (hnodup : (l.map key).Nodup)
    (hmem : p ∈ l) (s : σ) : field (l.foldl step s) = a := by
  induction l generalizing s with
  | nil => cases hmem
  | cons q l ih =>
    rw [List.map_cons, List.nodup_cons] at hnodup
    rw [List.foldl_cons]
    rcases List.mem_cons.mp hmem with rfl | hmem
    · rw [foldl_keeps hother (hp ▸ hnodup.1), hsame]
    · exact ih hnodup.2 hmem _

end Pairs

section Received

variable {pairs : List (String × String × UInt32)}

/-- The map has the pairs, if no key is there twice. -/
lemma foldl_insert (hnodup : (pairs.map (·.1)).Nodup) (map : List (String × String))
    (hmap : ∀ p ∈ pairs, p.1 ∉ map.map (·.1)) :
    pairs.foldl (fun map p => (p.1, p.2.1) :: map.filter (·.1 ≠ p.1)) map =
      (pairs.map fun p => (p.1, p.2.1)).reverse ++ map := by
  induction pairs generalizing map with
  | nil => rfl
  | cons p pairs ih =>
    rw [List.map_cons, List.nodup_cons] at hnodup
    have hfilter : map.filter (·.1 ≠ p.1) = map := by
      refine List.filter_eq_self.mpr fun q hq => decide_eq_true fun heq => ?_
      exact hmap p List.mem_cons_self (heq ▸ List.mem_map_of_mem hq)
    rw [List.foldl_cons, hfilter, ih hnodup.2, List.map_cons, List.reverse_cons, List.append_assoc,
      List.singleton_append]
    intro q hq hmem
    rcases List.mem_cons.mp (List.map_cons ▸ hmem) with heq | hmem
    · exact hnodup.1 (heq ▸ List.mem_map_of_mem hq)
    · exact hmap q (List.mem_cons_of_mem p hq) hmem

/-- A field of the session data, if no key is there twice. -/
lemma field_received {α : Type} {field : SessionData → Option α} {parse : String → Option α}
    {key value : String} {flags : UInt32} (msg : AuthMessage) (hnodup : (pairs.map (·.1)).Nodup)
    (hmem : (key, value, flags) ∈ pairs)
    (hstore : ∀ data key' value', field (SessionData.store data key' value') =
      if key' = key then parse value' else field data) :
    field (msg.received pairs).sessionData = parse value := by
  show field (SessionData.fromPairs (pairs.foldl _ [])) = parse value
  rw [foldl_insert hnodup [] fun _ _ => List.not_mem_nil, List.append_nil, SessionData.fromPairs]
  refine foldl_of_mem (k := key) (p := (key, value))
    (fun data (pair : String × String) (hne : pair.1 ≠ key) => ?_) rfl (fun data => ?_) ?_ ?_ _
  · rw [hstore, if_neg hne]
  · rw [hstore, if_pos rfl]
  · rw [List.map_reverse, List.nodup_reverse, List.map_map]
    exact hnodup
  · exact List.mem_reverse.mpr (List.mem_map_of_mem (f := fun p => (p.1, p.2.1)) hmem)

lemma authSesskey_store (data : SessionData) (key value : String) : (data.store key value).authSesskey =
    if key = "AUTH_SESSKEY" then some value else data.authSesskey := by
  unfold SessionData.store
  split_ifs <;> simp_all

lemma authVfrData_store (data : SessionData) (key value : String) : (data.store key value).authVfrData =
    if key = "AUTH_VFR_DATA" then some value else data.authVfrData := by
  unfold SessionData.store
  split_ifs <;> simp_all

lemma authPbkdf2CskSalt_store (data : SessionData) (key value : String) :
    (data.store key value).authPbkdf2CskSalt =
      if key = "AUTH_PBKDF2_CSK_SALT" then some value else data.authPbkdf2CskSalt := by
  unfold SessionData.store
  split_ifs <;> simp_all

lemma authPbkdf2VgenCount_store (data : SessionData) (key value : String) :
    (data.store key value).authPbkdf2VgenCount =
      if key = "AUTH_PBKDF2_VGEN_COUNT" then parseU32 value else data.authPbkdf2VgenCount := by
  unfold SessionData.store
  split_ifs <;> simp_all

lemma authPbkdf2SderCount_store (data : SessionData) (key value : String) :
    (data.store key value).authPbkdf2SderCount =
      if key = "AUTH_PBKDF2_SDER_COUNT" then parseU32 value else data.authPbkdf2SderCount := by
  unfold SessionData.store
  split_ifs <;> simp_all

lemma authSvrResponse_store (data : SessionData) (key value : String) : (data.store key value).authSvrResponse =
    if key = "AUTH_SVR_RESPONSE" then some value else data.authSvrResponse := by
  unfold SessionData.store
  split_ifs <;> simp_all

/-- The flags of the verifier data. -/
def verifierFlags (flags : UInt32) (pair : String × String × UInt32) : UInt32 :=
  if pair.1 = "AUTH_VFR_DATA" then pair.2.2 else flags

lemma verifierFlags_of_ne (flags : UInt32) (pair : String × String × UInt32)
    (h : pair.1 ≠ "AUTH_VFR_DATA") : id (verifierFlags flags pair) = id flags := if_neg h

/-- The verifier type is the one of the verifier data. -/
lemma verifierType_received {text : String} {flags : UInt32} (msg : AuthMessage)
    (hnodup : (pairs.map (·.1)).Nodup) (hmem : ("AUTH_VFR_DATA", text, flags) ∈ pairs) (hflags : flags ≠ 0) :
    (msg.received pairs).verifierType = flags := by
  have htype : pairs.foldl verifierFlags 0 = flags :=
    foldl_of_mem verifierFlags_of_ne rfl (fun _ => by rw [id, verifierFlags, if_pos rfl]) hnodup hmem 0
  show (if pairs.foldl verifierFlags 0 ≠ 0 then pairs.foldl verifierFlags 0 else msg.verifierType) = flags
  rw [htype, if_pos hflags]

/-- Without verifier data it stays. -/
lemma verifierType_received_of_notMem (msg : AuthMessage) (h : "AUTH_VFR_DATA" ∉ pairs.map (·.1)) :
    (msg.received pairs).verifierType = msg.verifierType := by
  have htype : pairs.foldl verifierFlags 0 = 0 := foldl_keeps verifierFlags_of_ne h 0
  show (if pairs.foldl verifierFlags 0 ≠ 0 then pairs.foldl verifierFlags 0 else msg.verifierType) = _
  rw [htype, if_neg (not_not.mpr rfl)]

end Received

/-! ## The first response -/

/-- The session data have the challenge. -/
structure HeldIn (password : Bytes) (data : SessionData) : Prop where
  /-- the server's part -/
  sesskey : ∃ text, data.authSesskey = some text ∧ crypto.hexDecode text =
    .ok (challenge.encrypt crypto (challenge.passwordHash crypto password) challenge.partA)
  /-- the verifier data -/
  vfrData : ∃ text, data.authVfrData = some text ∧ crypto.hexDecode text = .ok challenge.vfrData
  /-- the iterations for the password key -/
  vgenCount : challenge.verifierType = VerifierType.v12c → data.authPbkdf2VgenCount = some challenge.vgenCount
  /-- the salt -/
  cskSalt : challenge.verifierType = VerifierType.v12c →
    ∃ text, data.authPbkdf2CskSalt = some text ∧ crypto.hexDecode text = .ok challenge.cskSalt
  /-- the iterations for the combo key -/
  sderCount : challenge.verifierType = VerifierType.v12c → data.authPbkdf2SderCount = some challenge.sderCount

/-- The client behind the challenge. -/
def answered (msg : AuthMessage) (partB comboKey : Bytes) : AuthMessage :=
  { msg with
    clientSessionKey := some (challenge.encrypt crypto (challenge.passwordHash crypto msg.password)
      (Crypto.pad partB))
    comboKey := some comboKey }

section First

variable {challenge crypto} {pairs : List (String × String × UInt32)} {password : Bytes}

/-- What is sent is held. -/
lemma SentIn.heldIn (h : challenge.SentIn crypto password pairs) (msg : AuthMessage) :
    challenge.HeldIn crypto password (msg.received pairs).sessionData where
  sesskey := by
    obtain ⟨text, flags, hmem, hdecode⟩ := h.sesskey
    exact ⟨text, field_received msg h.nodup hmem authSesskey_store, hdecode⟩
  vfrData := by
    obtain ⟨text, hmem, hdecode⟩ := h.vfrData
    exact ⟨text, field_received msg h.nodup hmem authVfrData_store, hdecode⟩
  vgenCount h12c := by
    obtain ⟨text, flags, hmem, hparse⟩ := h.vgenCount h12c
    exact (field_received msg h.nodup hmem authPbkdf2VgenCount_store).trans hparse
  cskSalt h12c := by
    obtain ⟨text, flags, hmem, hdecode⟩ := h.cskSalt h12c
    exact ⟨text, field_received msg h.nodup hmem authPbkdf2CskSalt_store, hdecode⟩
  sderCount h12c := by
    obtain ⟨text, flags, hmem, hparse⟩ := h.sderCount h12c
    exact (field_received msg h.nodup hmem authPbkdf2SderCount_store).trans hparse

section Run

variable {msg : AuthMessage} {α : Type}

lemma run_require {value : Option α} {a : α} (h : value = some a) (e : Error)
    (f : α → AuthMessage.AuthM Unit) : (AuthMessage.require value e >>= f) msg = f a msg := by
  rw [h]
  rfl

lemma run_lift {r : Except Error α} {a : α} (h : r = .ok a) (f : α → AuthMessage.AuthM Unit) :
    (AuthMessage.lift r >>= f) msg = f a msg := by
  rw [h]
  rfl

lemma run_decodeHex {s : String} {b : Bytes} (h : crypto.hexDecode s = .ok b) (what : String)
    (f : Bytes → AuthMessage.AuthM Unit) :
    (AuthMessage.decodeHex crypto what s >>= f) msg = f b msg := by
  rw [AuthMessage.decodeHex, h]
  rfl

end Run

lemma generate12cVerifier_eq {random : ℕ → Bytes} {msg : AuthMessage}
    {vfrData serverKey partA encrypted salt comboKey : Bytes} {saltText : String} {vgenCount sderCount : UInt32}
    (hvgen : msg.sessionData.authPbkdf2VgenCount = some vgenCount)
    (hpartA : crypto.decryptCbc256 (crypto.generate12cPasswordHash msg.password vfrData vgenCount) serverKey =
      .ok partA)
    (hkey : crypto.encryptCbc256Pkcs7 (crypto.generate12cPasswordHash msg.password vfrData vgenCount)
      (random partA.length) = .ok encrypted)
    (hsalt : msg.sessionData.authPbkdf2CskSalt = some saltText) (hsaltBytes : crypto.hexDecode saltText = .ok salt)
    (hsder : msg.sessionData.authPbkdf2SderCount = some sderCount)
    (hcombo : crypto.generate12cComboKey partA (random partA.length) salt sderCount = .ok comboKey) :
    AuthMessage.generate12cVerifier crypto random vfrData serverKey msg =
      .ok () { msg with clientSessionKey := some encrypted, comboKey := some comboKey } := by
  rw [AuthMessage.generate12cVerifier]
  show (AuthMessage.require _ _ >>= _) msg = _
  rw [run_require hvgen, run_lift hpartA, run_lift hkey]
  show (AuthMessage.require _ _ >>= _) { msg with clientSessionKey := some encrypted } = _
  rw [run_require hsalt, run_decodeHex hsaltBytes, run_require hsder, run_lift hcombo]
  rfl

lemma generate11gVerifier_eq {random : ℕ → Bytes} {msg : AuthMessage}
    {vfrData serverKey partA encrypted comboKey : Bytes}
    (hpartA : crypto.decryptCbc192 (crypto.generate11gPasswordHash msg.password vfrData) serverKey = .ok partA)
    (hkey : crypto.encryptCbc192 (crypto.generate11gPasswordHash msg.password vfrData) (random partA.length) =
      .ok encrypted)
    (hcombo : crypto.generate11gComboKey partA (random partA.length) = .ok comboKey) :
    AuthMessage.generate11gVerifier crypto random vfrData serverKey msg =
      .ok () { msg with clientSessionKey := some encrypted, comboKey := some comboKey } := by
  rw [AuthMessage.generate11gVerifier]
  show (AuthMessage.lift _ >>= _) msg = _
  rw [run_lift hpartA, run_lift hkey]
  show (AuthMessage.lift _ >>= _) { msg with clientSessionKey := some encrypted } = _
  rw [run_lift hcombo]
  rfl

/-- From the data of the challenge the verifier is generated. -/
lemma generateVerifier_of_heldIn (hcrypto : crypto.Lawful) (hlegal : challenge.Legal) {random : ℕ → Bytes}
    (msg : AuthMessage) (hheld : challenge.HeldIn crypto msg.password msg.sessionData)
    (htype : msg.verifierType = challenge.verifierType) {combo : Bytes}
    (hcombo : challenge.comboKey crypto (random challenge.partA.length) = .ok combo) :
    AuthMessage.generateVerifier crypto random msg =
      .ok () (challenge.answered crypto msg (random challenge.partA.length) combo) := by
  obtain ⟨vfrText, hvfr, hvfrBytes⟩ := hheld.vfrData
  obtain ⟨keyText, hkey, hkeyBytes⟩ := hheld.sesskey
  have hhash := length_passwordHash challenge crypto msg.password
  have hdecrypt := decryptCbc_eq crypto hhash (fullBlocks_encrypt hcrypto hhash hlegal.blocks)
  have hencrypt := encryptCbc_eq crypto hhash (random challenge.partA.length)
  rw [decrypt_encrypt hcrypto hhash hlegal.blocks] at hdecrypt
  rw [AuthMessage.generateVerifier]
  show (AuthMessage.require _ _ >>= _) msg = _
  rw [run_require hvfr, run_decodeHex hvfrBytes, run_require hkey, run_decodeHex hkeyBytes, htype]
  unfold Challenge.comboKey at hcombo
  by_cases h12c : challenge.verifierType = VerifierType.v12c
  · obtain ⟨saltText, hsalt, hsaltBytes⟩ := hheld.cskSalt h12c
    have hpassword : challenge.passwordHash crypto msg.password =
      crypto.generate12cPasswordHash msg.password challenge.vfrData challenge.vgenCount := if_pos h12c
    rw [if_pos h12c] at hdecrypt hencrypt hcombo ⊢
    rw [hpassword] at hdecrypt hencrypt ⊢
    rw [generate12cVerifier_eq (hheld.vgenCount h12c) hdecrypt hencrypt hsalt hsaltBytes
      (hheld.sderCount h12c) hcombo, answered, hpassword]
  · have hpassword : challenge.passwordHash crypto msg.password =
      crypto.generate11gPasswordHash msg.password challenge.vfrData := if_neg h12c
    rw [if_neg h12c] at hdecrypt hencrypt hcombo ⊢
    rw [if_pos (hlegal.type.resolve_left h12c)]
    rw [hpassword] at hdecrypt hencrypt ⊢
    rw [generate11gVerifier_eq hdecrypt hencrypt hcombo, answered, hpassword]

/-- Behind the challenge the client has its part of the session key, and the combo key. -/
lemma parseResponse_of_sentIn (hcrypto : crypto.Lawful) (hlegal : challenge.Legal) {random : ℕ → Bytes}
    {msg : AuthMessage} (hphase : msg.phase = .one) {payload : Bytes}
    (hread : readPairs.runOn payload = .ok pairs) (hsent : challenge.SentIn crypto msg.password pairs)
    {combo : Bytes} (hcombo : challenge.comboKey crypto (random challenge.partA.length) = .ok combo) :
    AuthMessage.parseResponse crypto random payload msg = .ok () (challenge.answered crypto
      { msg.received pairs with phase := .two } (random challenge.partA.length) combo) := by
  obtain ⟨text, hmem, -⟩ := hsent.vfrData
  have hne : challenge.verifierType ≠ 0 := by
    obtain htype | htype | htype := hlegal.type <;> rw [htype] <;> decide
  rw [AuthMessage.parseResponse_of_one crypto random hread hphase]
  exact generateVerifier_of_heldIn hcrypto hlegal { msg.received pairs with phase := .two } (hsent.heldIn msg)
    (verifierType_received msg hsent.nodup hmem hne) hcombo

end First

/-! ## The second request -/

/-- The client's part of the session key, as far as the second request keeps it. -/
def keptKey (password partB : Bytes) : Bytes :=
  (challenge.encrypt crypto (challenge.passwordHash crypto password) (Crypto.pad partB)).take challenge.keptLen

/-- The encrypted password. -/
def encryptedPassword (combo salt password : Bytes) : Bytes :=
  challenge.encrypt crypto combo (Crypto.pad (salt ++ password))

/-- The password key, salted. -/
def saltedPasswordKey (salt password : Bytes) : Bytes :=
  salt ++ crypto.generate12cPasswordKey password challenge.vfrData challenge.vgenCount

/-- The speedy key: the first blocks of the encrypted password key. -/
def speedyKey (combo salt password : Bytes) : Bytes :=
  (challenge.encrypt crypto combo (Crypto.pad (challenge.saltedPasswordKey crypto salt password))).take 80

/-- The speedy key of a 12c verifier. -/
def speedy? (combo salt password : Bytes) : Option String :=
  if challenge.verifierType = VerifierType.v12c then
    some (crypto.hexEncodeUpper (challenge.speedyKey crypto combo salt password))
  else none

/-- The pairs of the second request. -/
def answerPairs (client : AuthClient) (combo passwordSalt speedySalt password partB : Bytes) :
    List (String × String × UInt32) :=
  client.phaseTwoPairs (crypto.hexEncodeUpper (challenge.keptKey crypto password partB))
    (challenge.speedy? crypto combo speedySalt password)
    (crypto.hexEncodeUpper (challenge.encryptedPassword crypto combo passwordSalt password))

section Second

variable {challenge crypto} {combo : Bytes} {msg : AuthMessage}

variable (challenge) in
lemma length_saltedPasswordKey (hcrypto : crypto.Lawful) {salt : Bytes} (hsalt : salt.length = 16)
    (password : Bytes) : (challenge.saltedPasswordKey crypto salt password).length = 80 := by
  rw [saltedPasswordKey, List.length_append, hsalt]
  exact congrArg (16 + ·) (hcrypto.length_pbkdf2 _ _ _ 64)

lemma length_pad (plaintext : Bytes) :
    (Crypto.pad plaintext).length = plaintext.length + (16 - plaintext.length % 16) := by
  rw [Crypto.pad, List.length_append, List.length_replicate, Crypto.paddingLen]

lemma encodePassword_eq (hcombo : msg.comboKey = some combo) (hlen : combo.length = challenge.keyLen)
    (htype : msg.verifierType = challenge.verifierType) (salt : Bytes) :
    AuthClient.encodePassword crypto salt msg =
      .ok (crypto.hexEncodeUpper (challenge.encryptedPassword crypto combo salt msg.password)) := by
  simp only [AuthClient.encodePassword, hcombo]
  rw [htype, encryptCbc_eq crypto hlen]
  rfl

lemma generateSpeedyKey_eq (hcrypto : crypto.Lawful) (hcombo : msg.comboKey = some combo)
    (hlen : combo.length = challenge.keyLen) (htype : msg.verifierType = challenge.verifierType)
    (hheld : challenge.HeldIn crypto msg.password msg.sessionData) {salt : Bytes} (hsalt : salt.length = 16) :
    AuthClient.generateSpeedyKey crypto salt msg = .ok (challenge.speedy? crypto combo salt msg.password) := by
  unfold AuthClient.generateSpeedyKey speedy?
  rw [htype]
  by_cases h12c : challenge.verifierType = VerifierType.v12c
  · obtain ⟨vfrText, hvfr, hvfrBytes⟩ := hheld.vfrData
    have hsalted := length_saltedPasswordKey challenge hcrypto hsalt msg.password
    have hencrypt := encryptCbc_eq crypto hlen
      (challenge.saltedPasswordKey crypto salt msg.password)
    have hlong := length_encrypt hcrypto hlen
      (fullBlocks_pad (challenge.saltedPasswordKey crypto salt msg.password))
    rw [length_pad, hsalted] at hlong
    rw [if_pos h12c] at hencrypt
    rw [if_neg (not_not.mpr h12c), if_pos h12c]
    simp only [hcombo, hvfr, hvfrBytes, hheld.vgenCount h12c]
    show (do
      let encrypted ← crypto.encryptCbc256Pkcs7 combo (challenge.saltedPasswordKey crypto salt msg.password)
      let speedy ← Crypto.keyPart 0 80 encrypted
      return some (crypto.hexEncodeUpper speedy) : Except Error (Option String)) = _
    rw [hencrypt]
    show (do
      let speedy ← Crypto.keyPart 0 80 _
      return some (crypto.hexEncodeUpper speedy) : Except Error (Option String)) = _
    rw [keyPart_eq (by omega), List.drop_zero]
    rfl
  · rw [if_pos h12c, if_neg h12c]

/-- The digits that the second request keeps. -/
lemma sessionKeyText_eq (hcrypto : crypto.Lawful) (sessionKey : Bytes) :
    AuthClient.sessionKeyText crypto challenge.verifierType sessionKey =
      crypto.hexEncodeUpper (sessionKey.take challenge.keptLen) := by
  rw [← hcrypto.take_encode, AuthClient.sessionKeyText, keptLen]
  split_ifs <;> rfl

/-- Digits are not lost if their number is small enough. -/
lemma valueKept_hex (hcrypto : crypto.Lawful) {b : Bytes} (hlen : 2 * b.length < 2 ^ 32) :
    AuthMessage.ValueKept (crypto.hexEncodeUpper b) := by
  have hbytes := hcrypto.length_asBytes b
  rcases Nat.eq_zero_or_pos b.length with hzero | hpos
  · left
    rw [← asBytes_eq_nil_iff, ← List.length_eq_zero_iff, hbytes, hzero]
  · right
    rw [hbytes]
    exact Nat.not_dvd_of_pos_of_lt (by omega) hlen

section Pairs

variable {client : AuthClient} {passwordSalt speedySalt password partB : Bytes}

variable (challenge crypto password partB) in
lemma length_keptKey_le : (challenge.keptKey crypto password partB).length ≤ 48 := by
  refine (List.length_take_le _ _).trans ?_
  unfold keptLen
  split_ifs <;> omega

/-- No value of the second request is lost. -/
lemma valueKept_answerPairs (hcrypto : crypto.Lawful) (hlen : combo.length = challenge.keyLen)
    (hpassword : password.length < 2 ^ 30) (hsalt : passwordSalt.length = 16)
    (hclient : ∀ value ∈ [client.driverName, client.clientVersion, client.alterTimezone],
      AuthMessage.ValueKept value) :
    ∀ pair ∈ challenge.answerPairs crypto client combo passwordSalt speedySalt password partB,
      AuthMessage.ValueKept pair.2.1 := by
  have hkey := length_keptKey_le challenge crypto password partB
  have hspeedy : (challenge.speedyKey crypto combo speedySalt password).length ≤ 80 := List.length_take_le _ _
  have hencrypted : (challenge.encryptedPassword crypto combo passwordSalt password).length < 2 ^ 31 := by
    rw [encryptedPassword, length_encrypt hcrypto hlen (fullBlocks_pad _), length_pad, List.length_append, hsalt]
    omega
  have hcharset : AuthMessage.ValueKept "873" := .inr (by decide)
  simp only [List.forall_mem_cons, List.not_mem_nil, false_imp_iff, imp_true_iff, and_true] at hclient
  unfold answerPairs AuthClient.phaseTwoPairs
  simp only [List.forall_mem_cons, List.forall_mem_append, List.not_mem_nil, false_imp_iff, imp_true_iff, and_true]
  refine ⟨valueKept_hex hcrypto (by omega), ?_, valueKept_hex hcrypto (by omega), hcharset, hclient⟩
  unfold AuthClient.speedyPairs speedy?
  split_ifs
  · simpa using valueKept_hex hcrypto (by omega)
  · simp

variable (challenge crypto client combo passwordSalt speedySalt password partB) in
/-- What the server finds under the names. -/
lemma lookup_answerPairs :
    lookup (challenge.answerPairs crypto client combo passwordSalt speedySalt password partB) "AUTH_SESSKEY" =
        some (crypto.hexEncodeUpper (challenge.keptKey crypto password partB)) ∧
      lookup (challenge.answerPairs crypto client combo passwordSalt speedySalt password partB)
          "AUTH_PASSWORD" =
        some (crypto.hexEncodeUpper (challenge.encryptedPassword crypto combo passwordSalt password)) ∧
      lookup (challenge.answerPairs crypto client combo passwordSalt speedySalt password partB)
        "AUTH_PBKDF2_SPEEDY_KEY" = challenge.speedy? crypto combo speedySalt password := by
  unfold answerPairs AuthClient.phaseTwoPairs AuthClient.speedyPairs
  cases challenge.speedy? crypto combo speedySalt password with
  | none => simp [lookup]
  | some speedy => simp [lookup]

lemma openValue_of_lookup (hcrypto : crypto.Lawful) {key blocks : Bytes} {name : String}
    {pairs : List (String × String × UInt32)} (h : lookup pairs name = some (crypto.hexEncodeUpper blocks)) :
    challenge.openValue crypto key pairs name = some (challenge.decrypt crypto key blocks) := by
  rw [openValue, h]
  show (do
    let blocks ← (crypto.hexDecode (crypto.hexEncodeUpper blocks)).toOption
    return challenge.decrypt crypto key blocks : Option Bytes) = _
  rw [hcrypto.decode_encode]
  rfl

/-- The server computes the combo key of the client. -/
lemma serverComboKey_answerPairs (hcrypto : crypto.Lawful) (hlegal : challenge.Legal)
    (hpartB : partB.length = challenge.partA.length) (hcombo : challenge.comboKey crypto partB = .ok combo) :
    challenge.serverComboKey crypto password
      (challenge.answerPairs crypto client combo passwordSalt speedySalt password partB) = some combo := by
  have hhash := length_passwordHash challenge crypto password
  have hkept := keptLen_le hlegal
  have hdvd : 16 ∣ challenge.keptLen := by
    unfold keptLen
    split_ifs <;> decide
  have hpart : (Crypto.pad partB).take challenge.keptLen = partB.take challenge.keptLen :=
    List.take_append_of_le_length (by omega)
  rw [serverComboKey, openValue_of_lookup hcrypto (lookup_answerPairs ..).1, keptKey,
    decrypt_take hcrypto hhash (fullBlocks_pad partB) hdvd, hpart]
  show (challenge.comboKey crypto (partB.take challenge.keptLen)).toOption = some combo
  rw [comboKey_take (by omega), hcombo]
  rfl

/-- The server reads the password. -/
lemma serverPassword_answerPairs (hcrypto : crypto.Lawful) (hlen : combo.length = challenge.keyLen)
    (hsalt : passwordSalt.length = 16) :
    challenge.serverPassword crypto combo
      (challenge.answerPairs crypto client combo passwordSalt speedySalt password partB) = some password := by
  rw [serverPassword, openValue_of_lookup hcrypto (lookup_answerPairs ..).2.1]
  show some ((Padding.unpad (challenge.decrypt crypto combo (challenge.encryptedPassword crypto combo
    passwordSalt password))).drop 16) = _
  rw [encryptedPassword, unpad_decrypt hcrypto hlen, ← hsalt, List.drop_left]

/-- The server reads the password key. -/
lemma serverPasswordKey_answerPairs (hcrypto : crypto.Lawful) (hlen : combo.length = challenge.keyLen)
    (hsalt : speedySalt.length = 16) (h12c : challenge.verifierType = VerifierType.v12c) :
    challenge.serverPasswordKey crypto combo
        (challenge.answerPairs crypto client combo passwordSalt speedySalt password partB) =
      some (crypto.generate12cPasswordKey password challenge.vfrData challenge.vgenCount) := by
  have hlookup := (lookup_answerPairs challenge crypto combo client passwordSalt speedySalt password partB).2.2
  have hsalted := length_saltedPasswordKey challenge hcrypto hsalt password
  rw [speedy?, if_pos h12c] at hlookup
  rw [serverPasswordKey, openValue_of_lookup hcrypto hlookup]
  show some ((challenge.decrypt crypto combo (challenge.speedyKey crypto combo speedySalt password)).drop 16) = _
  rw [speedyKey, decrypt_take hcrypto hlen (fullBlocks_pad _) (by decide), Crypto.pad, ← hsalted,
    List.take_left' rfl, saltedPasswordKey, ← hsalt, List.drop_left]

end Pairs

end Second

/-! ## The second response -/

/-- What is decrypted from the server's proof has the marker. -/
def Marked (decrypted : Bytes) : Prop :=
  32 ≤ decrypted.length ∧ (decrypted.drop 16).take 16 = asBytes "SERVER_TO_CLIENT"

/-- The pairs have a proof of the server, and no verifier data; no key is there twice. -/
structure ProvedBy (pairs : List (String × String × UInt32)) (text : String) : Prop where
  /-- no key is there twice -/
  nodup : (pairs.map (·.1)).Nodup
  /-- no verifier data -/
  noData : "AUTH_VFR_DATA" ∉ pairs.map (·.1)
  /-- the proof -/
  proof : ∃ flags, ("AUTH_SVR_RESPONSE", text, flags) ∈ pairs

/-- The call completes the authentication. -/
def Completes (random : ℕ → Bytes) (payload : Bytes) (msg : AuthMessage) : Prop :=
  ∃ msg', AuthMessage.parseResponse crypto random payload msg = .ok () msg' ∧ msg'.isComplete = true

section Proof

variable {challenge crypto} {combo : Bytes} {msg : AuthMessage} {pairs : List (String × String × UInt32)}

lemma checkMarker_eq_ok_iff (decrypted : Bytes) : AuthMessage.checkMarker decrypted = .ok () ↔ Marked decrypted := by
  unfold AuthMessage.checkMarker
  split_ifs with h
  · exact iff_of_true rfl h
  · exact iff_of_false nofun h

/-- The client accepts a proof if and only if it decrypts to the marker. -/
lemma verifyServerResponse_eq_ok_iff (msg : AuthMessage) (hcombo : msg.comboKey = some combo) (hlen : combo.length = challenge.keyLen)
    (htype : msg.verifierType = challenge.verifierType) {text : String}
    (htext : msg.sessionData.authSvrResponse = some text) :
    AuthMessage.verifyServerResponse crypto msg = .ok () ↔
      ∃ blocks, crypto.hexDecode text = .ok blocks ∧ Crypto.FullBlocks blocks ∧
        Marked (challenge.decrypt crypto combo blocks) := by
  simp only [AuthMessage.verifyServerResponse, htext, hcombo]
  cases hdecode : crypto.hexDecode text with
  | error e =>
    refine iff_of_false nofun ?_
    rintro ⟨blocks, h, -⟩
    cases h
  | ok blocks =>
    have hdecrypts : (∃ b, (if msg.verifierType = VerifierType.v12c then crypto.decryptCbc256 combo blocks
        else crypto.decryptCbc192 combo blocks) = .ok b) ↔ Crypto.FullBlocks blocks := by
      rw [htype]
      unfold keyLen at hlen
      split_ifs at hlen ⊢
      · exact Crypto.exists_decryptCbc_iff hlen blocks
      · exact Crypto.exists_decryptCbc_iff hlen blocks
    by_cases hblocks : Crypto.FullBlocks blocks
    · simp only [htype, decryptCbc_eq crypto hlen hblocks]
      show AuthMessage.checkMarker _ = .ok () ↔ _
      rw [checkMarker_eq_ok_iff]
      simp [hblocks]
    · refine iff_of_false (fun hok => ?_) ?_
      · cases hrun : if msg.verifierType = VerifierType.v12c then crypto.decryptCbc256 combo blocks
            else crypto.decryptCbc192 combo blocks with
        | ok b => exact hblocks (hdecrypts.mp ⟨b, hrun⟩)
        | error e =>
          simp only [hrun] at hok
          cases hok
      · rintro ⟨blocks', h, hfull, -⟩
        cases h
        exact hblocks hfull

/-- So does the call of phase two. -/
lemma completes_iff (hphase : msg.phase = .two) (hcombo : msg.comboKey = some combo)
    (hlen : combo.length = challenge.keyLen) (htype : msg.verifierType = challenge.verifierType)
    {random : ℕ → Bytes} {payload : Bytes} (hread : readPairs.runOn payload = .ok pairs) {text : String}
    (hproved : ProvedBy pairs text) :
    Completes crypto random payload msg ↔ ∃ blocks, crypto.hexDecode text = .ok blocks ∧
      Crypto.FullBlocks blocks ∧ Marked (challenge.decrypt crypto combo blocks) := by
  obtain ⟨flags, hmem⟩ := hproved.proof
  have htext : (msg.received pairs).sessionData.authSvrResponse = some text :=
    field_received msg hproved.nodup hmem authSvrResponse_store
  have htype' : (msg.received pairs).verifierType = challenge.verifierType :=
    (verifierType_received_of_notMem msg hproved.noData).trans htype
  rw [← verifyServerResponse_eq_ok_iff (msg.received pairs) hcombo hlen htype' htext, Completes,
    AuthMessage.parseResponse_of_two crypto random hread hphase]
  cases AuthMessage.verifyServerResponse crypto (msg.received pairs) with
  | ok u => exact iff_of_true ⟨_, rfl, rfl⟩ rfl
  | error e =>
    refine iff_of_false ?_ nofun
    rintro ⟨msg', h, -⟩
    cases h

end Proof

/-! ## The exchange -/

/-- Behind the challenge, what the client has agrees with what the server finds in its request. -/
structure Agreement (client : AuthClient) (msg' : AuthMessage) (sent : AuthRequest) (password combo : Bytes) :
    Prop where
  /-- the client waits for the proof -/
  phase : msg'.phase = .two
  /-- the client's combo key -/
  clientKey : msg'.comboKey = some combo
  /-- the request is the second one -/
  function : sent.function = authPhaseTwoCode
  /-- the user -/
  user : sent.user = client.user?
  /-- the server's combo key -/
  serverKey : challenge.serverComboKey crypto password sent.pairs = some combo
  /-- the password that the server reads -/
  readPassword : challenge.serverPassword crypto combo sent.pairs = some password
  /-- the password key that the server reads -/
  passwordKey : challenge.verifierType = VerifierType.v12c → challenge.serverPasswordKey crypto combo sent.pairs =
    some (crypto.generate12cPasswordKey password challenge.vfrData challenge.vgenCount)
  /-- the client accepts the server's proofs, and no others -/
  proofs : ∀ (random : ℕ → Bytes) payload pairs text, readPairs.runOn payload = .ok pairs → ProvedBy pairs text →
    (Completes crypto random payload msg' ↔ ∃ blocks, crypto.hexDecode text = .ok blocks ∧
      Crypto.FullBlocks blocks ∧ Marked (challenge.decrypt crypto combo blocks))

section Agrees

variable {crypto : Crypto} {challenge : Challenge} {random : ℕ → Bytes} {msg : AuthMessage} {payload : Bytes}
  {pairs : List (String × String × UInt32)} {client : AuthClient} {passwordSalt speedySalt combo : Bytes}

/-- Behind the challenge the client has the combo key, and its request for any capabilities agrees with it. -/
lemma agreement_of_comboKey (hcrypto : crypto.Lawful) (hlegal : challenge.Legal)
    (hrandom : ∀ n, (random n).length = n) (hphase : msg.phase = .one) (hpassword : msg.password.length < 2 ^ 30)
    (hread : readPairs.runOn payload = .ok pairs) (hsent : challenge.SentIn crypto msg.password pairs)
    (hclient : ∀ value ∈ [client.driverName, client.clientVersion, client.alterTimezone],
      AuthMessage.ValueKept value)
    (hsalt : passwordSalt.length = 16) (hspeedy : speedySalt.length = 16)
    (hcombo : challenge.comboKey crypto (random challenge.partA.length) = .ok combo) :
    ∃ msg', AuthMessage.parseResponse crypto random payload msg = .ok () msg' ∧
      ∀ caps largeSdu, ∃ request sent,
        client.buildRequest crypto caps largeSdu passwordSalt speedySalt msg' = .ok request ∧
        (AuthRequest.read caps largeSdu).runOn request = .ok sent ∧
        challenge.Agreement crypto client msg' sent msg.password combo := by
  have hpartB := hrandom challenge.partA.length
  obtain ⟨combo', hcombo', hlen⟩ := exists_comboKey hcrypto hlegal hpartB
  obtain rfl : combo' = combo := Except.ok.inj (hcombo'.symm.trans hcombo)
  obtain ⟨text, hmem, -⟩ := hsent.vfrData
  have hne : challenge.verifierType ≠ 0 := by
    obtain htype | htype | htype := hlegal.type <;> rw [htype] <;> decide
  have htype := verifierType_received msg hsent.nodup hmem hne
  -- the client behind the first response
  set msg' := challenge.answered crypto { msg.received pairs with phase := .two } (random challenge.partA.length)
    combo' with hmsg'
  have hparse : AuthMessage.parseResponse crypto random payload msg = .ok () msg' :=
    parseResponse_of_sentIn hcrypto hlegal hphase hread hsent hcombo
  have hkey : msg'.comboKey = some combo' := rfl
  have htype' : msg'.verifierType = challenge.verifierType := htype
  have hheld : challenge.HeldIn crypto msg'.password msg'.sessionData := hsent.heldIn msg
  refine ⟨msg', hparse, fun caps largeSdu => ?_⟩
  -- its request, and what the server reads
  have hbuild := client.buildPhaseTwo_eq crypto caps largeSdu
    (encodePassword_eq hkey hlen htype' passwordSalt) rfl
    (generateSpeedyKey_eq hcrypto hkey hlen htype' hheld hspeedy)
  rw [htype', sessionKeyText_eq hcrypto] at hbuild
  have hpairs : (AuthClient.numPairs challenge.verifierType).toNat = (challenge.answerPairs crypto client combo'
      passwordSalt speedySalt msg.password (random challenge.partA.length)).length := by
    unfold AuthClient.numPairs answerPairs AuthClient.phaseTwoPairs AuthClient.speedyPairs speedy?
    split_ifs <;> rfl
  have hreads := client.reads_request caps largeSdu authPhaseTwoCode 2 (client.authMode ||| authModeWithPassword)
    (AuthClient.numPairs challenge.verifierType) 1 hpairs
    (valueKept_answerPairs hcrypto hlen hpassword hsalt hclient)
  refine ⟨_, _, hbuild, ReadM.runOn_of_reads hreads, rfl, hkey, rfl, rfl,
    serverComboKey_answerPairs hcrypto hlegal hpartB hcombo, serverPassword_answerPairs hcrypto hlen hsalt,
    serverPasswordKey_answerPairs hcrypto hlen hspeedy, ?_⟩
  intro random' payload' pairs' text' hread' hproved
  exact completes_iff rfl hkey hlen htype' hread' hproved

end Agrees

/-- The pairs of a challenge. -/
def pairs (password : Bytes) : List (String × String × UInt32) :=
  [("AUTH_SESSKEY", crypto.hexEncodeUpper
      (challenge.encrypt crypto (challenge.passwordHash crypto password) challenge.partA), 0),
    ("AUTH_VFR_DATA", crypto.hexEncodeUpper challenge.vfrData, challenge.verifierType),
    ("AUTH_PBKDF2_CSK_SALT", crypto.hexEncodeUpper challenge.cskSalt, 0),
    ("AUTH_PBKDF2_VGEN_COUNT", "4096", 0), ("AUTH_PBKDF2_SDER_COUNT", "3", 0)]

/-- A challenge with a 12c verifier. -/
def challenge12c : Challenge := ⟨VerifierType.v12c, [1, 2, 3], List.replicate 32 5, [4, 5], 4096, 3⟩

/-- A response with it. -/
def response12c (password : Bytes) : Bytes :=
  [0, 0] ++ ([8] ++ (ubBytes 5 ++ (challenge12c.pairs Crypto.lawfulCrypto password).flatMap AuthMessage.pairBytes))

lemma sentIn_challenge12c (password : Bytes) : challenge12c.SentIn Crypto.lawfulCrypto password
    (challenge12c.pairs Crypto.lawfulCrypto password) where
  nodup := by simp [pairs]
  sesskey := ⟨_, 0, by simp [pairs], Crypto.lawful_lawfulCrypto.decode_encode _⟩
  vfrData := ⟨_, by simp [pairs], Crypto.lawful_lawfulCrypto.decode_encode _⟩
  vgenCount _ := ⟨"4096", 0, by simp [pairs], by decide⟩
  cskSalt _ := ⟨_, 0, by simp [pairs], Crypto.lawful_lawfulCrypto.decode_encode _⟩
  sderCount _ := ⟨"3", 0, by simp [pairs], by decide⟩

/-- A client. -/
def scott : AuthClient where
  username := "SCOTT"
  terminal := "xterm"
  program := "sqlrs"
  machine := "localhost"
  osuser := "scott"
  pid := "42"
  driverName := "oracle-rs : 0.1.7 thn"
  clientVersion := "1077248"
  alterTimezone := "ALTER SESSION SET TIME_ZONE='+00:00'"

end Challenge

end OracleRs
