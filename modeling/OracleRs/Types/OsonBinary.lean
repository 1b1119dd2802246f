import OracleRs.Lib.Base64
import OracleRs.Types.Oson

set_option relaxedAutoImplicit false
set_option autoImplicit false

/-!
# Binary data in OSON documents

The decoder of OSON makes a text of binary data and ids (`base64_encode` of `types/oson.rs`), since there are no
bytes in JSON. The text is the standard Base64 encoding of the bytes, and so they can be recovered from it.

## Main results

* `OracleRs.Oson.base64Chars_eq` — the function is the encoder of the standard.
* `OracleRs.Oson.decode_base64Encode` — the bytes are recovered from their text, and how long this is.
-/

namespace OracleRs.Oson

/-! ## Digits -/

/-- The alphabet is that of the standard. -/
lemma base64Char_eq : ∀ v : Fin 64, base64Char v = Base64.char v := by decide +kernel

lemma char_mod (n : ℕ) : Base64.char (n % 64) = base64Char (n % 64) :=
  (base64Char_eq ⟨n % 64, Nat.mod_lt n (by decide)⟩).symm

/-- The lowest `k` bits of a byte, and some bits of the next one behind them. -/
lemma shiftLeft_or_eq (a : ℕ) {b i : ℕ} (k : ℕ) (hb : b < 2 ^ i) :
    (a &&& (2 ^ k - 1)) <<< i ||| b = a % 2 ^ k * 2 ^ i + b := by
  rw [Nat.and_two_pow_sub_one_eq_mod, ← Nat.shiftLeft_add_eq_or_of_lt hb, Nat.shiftLeft_eq]

variable (b₀ b₁ b₂ : UInt8)

/-- The second digit of a group. -/
lemma second_eq : (b₀.toNat &&& 0x03) <<< 4 ||| b₁.toNat >>> 4 = b₀.toNat % 4 * 16 + b₁.toNat / 16 := by
  have hlt : b₁.toNat >>> 4 < 2 ^ 4 := by
    rw [Nat.shiftRight_eq_div_pow]
    exact Nat.div_lt_of_lt_mul b₁.toNat_lt
  have hsum := shiftLeft_or_eq b₀.toNat 2 hlt
  rw [Nat.shiftRight_eq_div_pow] at hsum ⊢
  exact hsum

/-- The third digit of a group. -/
lemma third_eq : (b₁.toNat &&& 0x0f) <<< 2 ||| b₂.toNat >>> 6 = b₁.toNat % 16 * 4 + b₂.toNat / 64 := by
  have hlt : b₂.toNat >>> 6 < 2 ^ 2 := by
    rw [Nat.shiftRight_eq_div_pow]
    exact Nat.div_lt_of_lt_mul b₂.toNat_lt
  have hsum := shiftLeft_or_eq b₁.toNat 4 hlt
  rw [Nat.shiftRight_eq_div_pow] at hsum ⊢
  exact hsum

/-- A group of three bytes. -/
lemma encodeGroup_three : Base64.encodeGroup [b₀, b₁, b₂] =
    [base64Char (b₀.toNat >>> 2), base64Char ((b₀.toNat &&& 0x03) <<< 4 ||| b₁.toNat >>> 4),
      base64Char ((b₁.toNat &&& 0x0f) <<< 2 ||| b₂.toNat >>> 6), base64Char (b₂.toNat &&& 0x3f)] := by
  have h₀ := b₀.toNat_lt
  have h₁ := b₁.toNat_lt
  have h₂ := b₂.toNat_lt
  have hmask : b₂.toNat &&& 0x3f = b₂.toNat % 64 := Nat.and_two_pow_sub_one_eq_mod _ 6
  have heval : BigEndian.eval [b₀, b₁, b₂] * Base64.fillBits 3 =
      (b₀.toNat * 256 + b₁.toNat) * 256 + b₂.toNat := by simp [BigEndian.eval, Base64.fillBits]
  rw [second_eq, third_eq, hmask, Nat.shiftRight_eq_div_pow, Base64.encodeGroup]
  show Base64.digits 4 (_ * Base64.fillBits 3) = _
  rw [heval]
  simp only [Base64.digits, char_mod, List.nil_append, List.cons_append, List.cons.injEq, and_true]
  refine ⟨?_, ?_, ?_, ?_⟩
  all_goals
    congr 1
    omega

/-- A group of one byte is filled up with zero bytes. -/
lemma encodeGroup_one : Base64.encodeGroup [b₀] =
    [base64Char (b₀.toNat >>> 2), base64Char ((b₀.toNat &&& 0x03) <<< 4)] := by
  have htake : Base64.encodeGroup [b₀] = (Base64.encodeGroup [b₀, 0, 0]).take 2 := by
    refine .trans ?_ (Base64.take_digits 2 2 _).symm
    rw [Base64.encodeGroup]
    congr 1
    simp [BigEndian.eval, Base64.fillBits]
    omega
  rw [htake, encodeGroup_three]
  simp

/-- And so is one of two bytes. -/
lemma encodeGroup_two : Base64.encodeGroup [b₀, b₁] =
    [base64Char (b₀.toNat >>> 2), base64Char ((b₀.toNat &&& 0x03) <<< 4 ||| b₁.toNat >>> 4),
      base64Char ((b₁.toNat &&& 0x0f) <<< 2)] := by
  have htake : Base64.encodeGroup [b₀, b₁] = (Base64.encodeGroup [b₀, b₁, 0]).take 3 := by
    refine .trans ?_ (Base64.take_digits 3 1 _).symm
    rw [Base64.encodeGroup]
    congr 1
    simp [BigEndian.eval, Base64.fillBits]
    omega
  rw [htake, encodeGroup_three]
  simp

/-! ## Texts -/

/-- The function is the encoder of the standard. -/
lemma base64Chars_eq (data : Bytes) : base64Chars data = Base64.encode data := by
  induction data using Base64.encode.induct with
  | case1 => rfl
  | case2 b₀ =>
    rw [Base64.encode, encodeGroup_one]
    rfl
  | case3 b₀ b₁ =>
    rw [Base64.encode, encodeGroup_two]
    rfl
  | case4 b₀ b₁ b₂ rest ih =>
    rw [Base64.encode, encodeGroup_three, ← ih]
    rfl

/-- The text of some bytes is decoded to the bytes, and has four characters, of one byte each, for every three
bytes that have begun. -/
theorem decode_base64Encode (data : Bytes) :
    Base64.decode (base64Encode data).toList = some data ∧
      (asBytes (base64Encode data)).length = 4 * ((data.length + 2) / 3) := by
  rw [base64Encode, String.toList_ofList, base64Chars_eq]
  refine ⟨Base64.decode_encode data, ?_⟩
  rw [asBytes_ofList (Base64.toNat_lt_of_mem_encode data), List.length_map, Base64.length_encode]

end OracleRs.Oson
