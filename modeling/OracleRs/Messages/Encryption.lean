import OracleRs.Lib.Padding
import OracleRs.Messages.Auth

set_option relaxedAutoImplicit false
set_option autoImplicit false

/-!
# Encryption with padding

The encryptions of the authentication (`crypto.rs`): AES-256 with a mode for the padding, and AES-192. Each
computes its padding itself. Where the padding says how long it is, decrypting and dropping it gives back what
was encrypted.

## Main definitions

* `OracleRs.Crypto.encryptCbc256Internal` — the encryption with both modes of padding.
* `OracleRs.Crypto.Recovers` — an encryption whose padding is removable.

## Main results

* `OracleRs.Crypto.padded256_true`, `OracleRs.Crypto.pad_eq` — both computations are the same padding.
* `OracleRs.Crypto.recovers_encryptCbc` — the padding of both encryptions is removable.
-/

namespace OracleRs.Crypto

variable (crypto : Crypto)

/-! ## AES-256 with both modes -/

/-- The padding length of `encrypt_cbc_256_internal`. -/
def paddingLen256 (plaintext : Bytes) (usePkcs7 : Bool) : ℕ :=
  let remainder := plaintext.length % 16
  if remainder = 0 ∧ usePkcs7 = false then 0
  else if remainder = 0 ∧ usePkcs7 = true then 16
  else 16 - remainder

/-- The buffer of `encrypt_cbc_256_internal`. -/
def padded256 (plaintext : Bytes) (usePkcs7 : Bool) : Bytes :=
  let paddingLen := paddingLen256 plaintext usePkcs7
  if paddingLen > 0 then
    if usePkcs7 then plaintext ++ List.replicate paddingLen (UInt8.ofNat paddingLen)
    else plaintext ++ List.replicate paddingLen 0
  else plaintext

/-- `encrypt_cbc_256_internal`. -/
def encryptCbc256Internal (key plaintext : Bytes) (usePkcs7 : Bool) : Except Error Bytes := do
  checkKey 256 32 key
  return crypto.aes256CbcEnc key (padded256 plaintext usePkcs7)

/-- `encrypt_cbc_256`. -/
def encryptCbc256 (key plaintext : Bytes) : Except Error Bytes :=
  crypto.encryptCbc256Internal key plaintext false

/-! ## The padding -/

/-- The padding of AES-192 is the one that says how long it is. -/
lemma pad_eq (plaintext : Bytes) : pad plaintext = Padding.pad 16 plaintext := rfl

/-- So is that of AES-256 in its mode. -/
lemma padded256_true (plaintext : Bytes) : padded256 plaintext true = Padding.pad 16 plaintext := by
  have hlen : paddingLen256 plaintext true = Padding.padLen 16 plaintext.length := by
    unfold paddingLen256 Padding.padLen
    by_cases hzero : plaintext.length % 16 = 0
    · simp [hzero]
    · simp [hzero]
  have hpos := Padding.padLen_pos (n := 16) (by decide) plaintext.length
  simp only [padded256, hlen, hpos, if_true, Padding.pad]

/-- Without it a text that is aligned stays as it is. -/
lemma padded256_false_of_dvd {plaintext : Bytes} (h : 16 ∣ plaintext.length) :
    padded256 plaintext false = plaintext := by
  simp [padded256, paddingLen256, Nat.mod_eq_zero_of_dvd h]

/-- In both modes the encryption is one of blocks. -/
lemma dvd_length_padded256 (plaintext : Bytes) (usePkcs7 : Bool) :
    16 ∣ (padded256 plaintext usePkcs7).length := by
  cases usePkcs7 with
  | true =>
    rw [padded256_true]
    exact Padding.dvd_length_pad (by decide) plaintext
  | false =>
    by_cases h : 16 ∣ plaintext.length
    · rwa [padded256_false_of_dvd h]
    · have hmod : plaintext.length % 16 ≠ 0 := fun hzero => h (Nat.dvd_of_mod_eq_zero hzero)
      have hdvd := Padding.dvd_add_padLen (n := 16) (by decide) plaintext.length
      have hlt : plaintext.length % 16 < 16 := Nat.mod_lt _ (by decide)
      simpa [padded256, paddingLen256, Padding.padLen, hmod, hlt] using hdvd

/-- The mode of AES-256 that the authentication uses. -/
lemma encryptCbc256Pkcs7_eq (key plaintext : Bytes) :
    crypto.encryptCbc256Pkcs7 key plaintext = crypto.encryptCbc256Internal key plaintext true := by
  rw [encryptCbc256Internal, padded256_true]
  rfl

/-! ## Decryption -/

/-- AES in CBC mode without padding: decryption is the inverse of encryption, which keeps the length of full
blocks. -/
structure Inverts : Prop where
  /-- AES-256, the lengths -/
  length256 : ∀ key blocks, key.length = 32 → FullBlocks blocks →
    (crypto.aes256CbcEnc key blocks).length = blocks.length
  /-- AES-256, the inverse -/
  inverse256 : ∀ key blocks, key.length = 32 → FullBlocks blocks →
    crypto.aes256CbcDec key (crypto.aes256CbcEnc key blocks) = blocks
  /-- AES-192, the lengths -/
  length192 : ∀ key blocks, key.length = 24 → FullBlocks blocks →
    (crypto.aes192CbcEnc key blocks).length = blocks.length
  /-- AES-192, the inverse -/
  inverse192 : ∀ key blocks, key.length = 24 → FullBlocks blocks →
    crypto.aes192CbcDec key (crypto.aes192CbcEnc key blocks) = blocks

/-- What is encrypted with the key has full blocks, and it is recovered by decrypting them and dropping as many
bytes as the last one says. -/
def Recovers (enc dec : Bytes → Bytes → Except Error Bytes) (key plaintext : Bytes) : Prop :=
  ∃ ciphertext, enc key plaintext = .ok ciphertext ∧ 0 < ciphertext.length ∧ 16 ∣ ciphertext.length ∧
    ∃ padded, dec key ciphertext = .ok padded ∧ Padding.unpad padded = plaintext

/-- An encryption of the padded text is recovered if decryption is the inverse on full blocks. -/
lemma recovers_of_pad {bits len : ℕ} {enc dec : Bytes → Bytes → Bytes} {key : Bytes} (hkey : key.length = len)
    (hlength : ∀ key blocks, key.length = len → FullBlocks blocks → (enc key blocks).length = blocks.length)
    (hinverse : ∀ key blocks, key.length = len → FullBlocks blocks → dec key (enc key blocks) = blocks)
    (plaintext : Bytes) : Recovers (encryptCbc bits len enc) (decryptCbc bits len dec) key plaintext := by
  have hblocks : FullBlocks (Padding.pad 16 plaintext) :=
    ⟨Padding.pad_ne_nil (by decide) plaintext, Nat.mod_eq_zero_of_dvd (Padding.dvd_length_pad (by decide) plaintext)⟩
  have hlen := hlength key _ hkey hblocks
  have hcipher : FullBlocks (enc key (Padding.pad 16 plaintext)) := by
    refine ⟨List.ne_nil_of_length_pos ?_, ?_⟩
    · rw [hlen]
      exact List.length_pos_of_ne_nil hblocks.1
    · rw [hlen]
      exact hblocks.2
  refine ⟨enc key (Padding.pad 16 plaintext), encryptCbc_eq hkey plaintext,
    List.length_pos_of_ne_nil hcipher.1, Nat.dvd_of_mod_eq_zero hcipher.2, Padding.pad 16 plaintext, ?_,
    Padding.unpad_pad (by decide) (by decide) plaintext⟩
  rw [decryptCbc_eq hkey hcipher, hinverse key _ hkey hblocks]

/-- The padding of both encryptions is removable. -/
theorem recovers_encryptCbc (hcrypto : crypto.Inverts) (plaintext : Bytes) :
    (∀ key, key.length = 32 →
      Recovers (fun key text => crypto.encryptCbc256Internal key text true) crypto.decryptCbc256 key plaintext) ∧
    ∀ key, key.length = 24 → Recovers crypto.encryptCbc192 crypto.decryptCbc192 key plaintext := by
  constructor
  · intro key hkey
    have hrecovers : Recovers crypto.encryptCbc256Pkcs7 crypto.decryptCbc256 key plaintext :=
      recovers_of_pad hkey hcrypto.length256 hcrypto.inverse256 plaintext
    have heq : (fun key text => crypto.encryptCbc256Internal key text true) = crypto.encryptCbc256Pkcs7 := by
      funext key text
      exact (crypto.encryptCbc256Pkcs7_eq key text).symm
    rwa [heq]
  · intro key hkey
    exact recovers_of_pad hkey hcrypto.length192 hcrypto.inverse192 plaintext

/-- A cipher that changes every byte, and is its own inverse. -/
def xorCipher (key blocks : Bytes) : Bytes := blocks.map (· ^^^ key.headD 0)

lemma xorCipher_xorCipher (key blocks : Bytes) : xorCipher key (xorCipher key blocks) = blocks := by
  simp [xorCipher, Function.comp_def, UInt8.xor_assoc]

/-- Primitives with this cipher. -/
def xorCrypto : Crypto :=
  { zeros with
    aes256CbcEnc := xorCipher
    aes256CbcDec := xorCipher
    aes192CbcEnc := xorCipher
    aes192CbcDec := xorCipher }

lemma inverts_xorCrypto : xorCrypto.Inverts where
  length256 _ _ _ _ := List.length_map _
  inverse256 key blocks _ _ := xorCipher_xorCipher key blocks
  length192 _ _ _ _ := List.length_map _
  inverse192 key blocks _ _ := xorCipher_xorCipher key blocks

/-- A text of three bytes and one of a whole block are recovered. -/
theorem recovers_xorCrypto :
    Recovers (fun key text => xorCrypto.encryptCbc256Internal key text true) xorCrypto.decryptCbc256
        (List.replicate 32 90) [1, 2, 3] ∧
      Recovers xorCrypto.encryptCbc192 xorCrypto.decryptCbc192 (List.replicate 24 90)
        (List.replicate 16 7) :=
  ⟨(recovers_encryptCbc xorCrypto inverts_xorCrypto _).1 _ List.length_replicate,
    (recovers_encryptCbc xorCrypto inverts_xorCrypto _).2 _ List.length_replicate⟩

end OracleRs.Crypto
