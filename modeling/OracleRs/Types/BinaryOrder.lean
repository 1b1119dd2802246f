import OracleRs.Types.Binary

set_option relaxedAutoImplicit false
set_option autoImplicit false

/-!
# The order of BINARY_FLOAT and BINARY_DOUBLE

The codecs of `OracleRs.Types.Binary` are bijections between bit patterns and byte strings, and the byte
strings are ordered as the numbers are: the sign bit decides first, and negative numbers are ordered
against their magnitudes. The server compares the byte strings only.

## Main definitions

* `OracleRs.signMagnitude` — the place of a bit pattern in the order of the numbers.
* `OracleRs.OrderedCodec` — a codec that is a bijection and keeps this order.

## Main results

* `OracleRs.eval_toWireBits` — the number that the bytes on the wire denote.
* `OracleRs.orderedCodec_binary` — both codecs are such bijections.
* `OracleRs.decodeBinaryDouble_eq_halves` — the eight bytes of a double are put together from two halves.
-/

namespace OracleRs

open BigEndian

/-! ## Patterns and bytes on the wire -/

/-- The sign bit of a pattern is that of its leading byte. -/
lemma and_0x80_eq_zero_iff : ∀ b : UInt8, b &&& 0x80 = 0 ↔ b.toNat < 128 :=
  forall_byte (by decide +kernel)

lemma toNat_or_0x80 : ∀ b : UInt8, b.toNat < 128 → (b ||| 0x80).toNat = b.toNat + 128 :=
  forall_byte (by decide +kernel)

/-- Bytes from the wire are written back. -/
lemma toWireBits_fromWireBits (bs : Bytes) : toWireBits (fromWireBits bs) = bs := by
  cases bs with
  | nil => rfl
  | cons b bs =>
    have hpos : ∀ b : UInt8, b &&& 0x80 ≠ 0 → (b &&& 0x7F) &&& 0x80 = 0 ∧
        (b &&& 0x7F) ||| 0x80 = b := forall_byte (by decide +kernel)
    have hneg : ∀ b : UInt8, b &&& 0x80 = 0 → ¬ (~~~b) &&& 0x80 = 0 := forall_byte (by decide +kernel)
    by_cases h : b &&& 0x80 ≠ 0
    · rw [fromWireBits, if_pos h, toWireBits, if_pos (hpos b h).1, (hpos b h).2]
    · have hnot : (fun x : UInt8 => ~~~x) ∘ (fun x => ~~~x) = id := by
        funext x
        exact UInt8.not_not
      rw [fromWireBits, if_neg h, List.map_cons, toWireBits, if_neg (hneg b (not_not.mp h)),
        List.map_cons, UInt8.not_not, List.map_map, hnot, List.map_id]

lemma length_fromWireBits (bs : Bytes) : (fromWireBits bs).length = bs.length := by
  rw [← length_toWireBits, toWireBits_fromWireBits]

/-- The bytes on the wire denote a number that is half the range higher than a positive pattern, and
that goes down from the middle of the range with a negative one. -/
lemma eval_toWireBits {w : ℕ} {bs : Bytes} (hlen : bs.length = w + 1) :
    (eval bs < 128 * 256 ^ w → eval (toWireBits bs) = eval bs + 128 * 256 ^ w) ∧
    (128 * 256 ^ w ≤ eval bs → eval (toWireBits bs) + eval bs + 1 = 256 ^ (w + 1)) := by
  obtain ⟨b, bs, rfl⟩ := List.exists_cons_of_length_eq_add_one hlen
  obtain rfl : bs.length = w := by simpa using hlen
  have hlt := eval_lt bs
  by_cases h : b &&& 0x80 = 0
  · have hb := (and_0x80_eq_zero_iff b).mp h
    have hle := Nat.mul_le_mul_right (256 ^ bs.length) (Nat.succ_le_of_lt hb)
    rw [Nat.succ_mul] at hle
    rw [toWireBits, if_pos h, eval_cons, eval_cons, toNat_or_0x80 b hb, Nat.add_mul]
    exact ⟨fun _ => by omega, fun hge => by omega⟩
  · have hb := (and_0x80_eq_zero_iff b).not.mp h
    have hle := Nat.mul_le_mul_right (256 ^ bs.length) (Nat.le_of_not_lt hb)
    rw [toWireBits, if_neg h]
    refine ⟨fun hlt' => ?_, fun _ => eval_map_not (b :: bs)⟩
    rw [eval_cons] at hlt'
    omega

/-! ## The order -/

/-- The place of a pattern of `w + 1` bytes in the order of the numbers: positive patterns in the order of
their magnitudes, and below them the negative ones in the opposite order, negative zero first. -/
def signMagnitude (w n : ℕ) : ℤ :=
  if n < 128 * 256 ^ w then n else -((n - 128 * 256 ^ w : ℕ) : ℤ) - 1

/-- The bytes on the wire are ordered as the numbers are. -/
lemma toWireBits_digits_lt_iff {w m n : ℕ} (hm : m < 256 ^ (w + 1)) (hn : n < 256 ^ (w + 1)) :
    toWireBits (digits (w + 1) m) < toWireBits (digits (w + 1) n) ↔
      signMagnitude w m < signMagnitude w n := by
  obtain ⟨hposm, hnegm⟩ := eval_toWireBits (length_digits (w + 1) m)
  obtain ⟨hposn, hnegn⟩ := eval_toWireBits (length_digits (w + 1) n)
  rw [eval_digits _ _ hm] at hposm hnegm
  rw [eval_digits _ _ hn] at hposn hnegn
  rw [lt_iff_eval_lt (by simp), signMagnitude, signMagnitude]
  rw [pow_succ] at hm hn hnegm hnegn
  split_ifs with h h' h'
  · rw [hposm h, hposn h']
    omega
  · have := hposm h
    have := hnegn (not_lt.mp h')
    omega
  · have := hnegm (not_lt.mp h)
    have := hposn h'
    omega
  · have := hnegm (not_lt.mp h)
    have := hnegn (not_lt.mp h')
    omega

/-- A codec of patterns of `w + 1` bytes that is a bijection, and whose byte strings are ordered
lexicographically as the patterns are ordered as numbers. -/
structure OrderedCodec {P : Type} (w : ℕ) (toNat : P → ℕ) (encode : P → Bytes)
    (decode : Bytes → P) : Prop where
  length_encode : ∀ p, (encode p).length = w + 1
  decode_encode : ∀ p, decode (encode p) = p
  encode_decode : ∀ data, data.length = w + 1 → encode (decode data) = data
  lt_iff : ∀ p q, encode p < encode q ↔ signMagnitude w (toNat p) < signMagnitude w (toNat q)

/-- The bytes of a pattern are those of the number they denote. -/
lemma digits_eval_fromWireBits {w : ℕ} {data : Bytes} (hlen : data.length = w) :
    toWireBits (digits w (eval (fromWireBits data))) = data ∧ eval (fromWireBits data) < 256 ^ w := by
  have hbits : (fromWireBits data).length = w := by rw [length_fromWireBits, hlen]
  have hdigits := digits_eval (fromWireBits data)
  have hlt := eval_lt (fromWireBits data)
  rw [hbits] at hdigits hlt
  rw [hdigits, toWireBits_fromWireBits]
  exact ⟨rfl, hlt⟩

/-- **Both codecs are bijections that keep the order**, NaNs included. -/
theorem orderedCodec_binary :
    OrderedCodec 3 UInt32.toNat encodeBinaryFloat decodeBinaryFloat ∧
      OrderedCodec 7 UInt64.toNat encodeBinaryDouble decodeBinaryDouble := by
  refine ⟨⟨length_encodeBinaryFloat, decodeBinaryFloat_encodeBinaryFloat, fun data hlen => ?_, ?_⟩,
    ⟨length_encodeBinaryDouble, decodeBinaryDouble_encodeBinaryDouble, fun data hlen => ?_, ?_⟩⟩
  · obtain ⟨hback, hlt⟩ := digits_eval_fromWireBits hlen
    rw [decodeBinaryFloat, if_neg (by omega), List.take_of_length_le hlen.le, encodeBinaryFloat,
      UInt32.toNat_ofNat', Nat.mod_eq_of_lt (hlt.trans_eq (by norm_num)), hback]
  · exact fun p q => toWireBits_digits_lt_iff p.toNat_lt q.toNat_lt
  · obtain ⟨hback, hlt⟩ := digits_eval_fromWireBits hlen
    rw [decodeBinaryDouble, if_neg (by omega), List.take_of_length_le hlen.le, encodeBinaryDouble,
      UInt64.toNat_ofNat', Nat.mod_eq_of_lt (hlt.trans_eq (by norm_num)), hback]
  · exact fun p q => toWireBits_digits_lt_iff p.toNat_lt q.toNat_lt

/-- Negative zero is just below positive zero. -/
example : encodeBinaryFloat 0x80000000 = [0x7F, 0xFF, 0xFF, 0xFF] ∧
    encodeBinaryFloat 0 = [0x80, 0, 0, 0] := by decide

/-! ## The two halves of a double -/

/-- Four bytes put together. -/
def halfBits (b₀ b₁ b₂ b₃ : UInt8) : UInt64 :=
  (b₀.toUInt64 <<< 24) ||| (b₁.toUInt64 <<< 16) ||| (b₂.toUInt64 <<< 8) ||| b₃.toUInt64

/-- Numbers with no common bits are put together by addition. -/
lemma or_eq_add {a b : ℕ} (i : ℕ) (ha : 2 ^ i ∣ a) (hb : b < 2 ^ i) : a ||| b = a + b := by
  obtain ⟨k, rfl⟩ := ha
  exact (Nat.two_pow_add_eq_or_of_lt hb k).symm

lemma toNat_halfBits (b₀ b₁ b₂ b₃ : UInt8) :
    (halfBits b₀ b₁ b₂ b₃).toNat = eval [b₀, b₁, b₂, b₃] := by
  have hshift : ∀ (b : UInt8) (k : UInt64), k.toNat ≤ 24 →
      (b.toUInt64 <<< k).toNat = b.toNat * 2 ^ k.toNat := by
    intro b k hk
    have hb := b.toNat_lt
    have hpow : 2 ^ k.toNat ≤ 2 ^ 24 := Nat.pow_le_pow_right (by omega) hk
    have hlt : b.toNat * 2 ^ k.toNat < 2 ^ 64 :=
      calc b.toNat * 2 ^ k.toNat ≤ 2 ^ 8 * 2 ^ 24 := Nat.mul_le_mul hb.le hpow
        _ < 2 ^ 64 := by norm_num
    have hmod : k.toNat % 64 = k.toNat := by omega
    rw [UInt64.toNat_shiftLeft, UInt8.toNat_toUInt64, hmod, Nat.shiftLeft_eq, Nat.mod_eq_of_lt hlt]
  have h₀ := b₀.toNat_lt
  have h₁ := b₁.toNat_lt
  have h₂ := b₂.toNat_lt
  have h₃ := b₃.toNat_lt
  rw [halfBits, UInt64.toNat_or, UInt64.toNat_or, UInt64.toNat_or, hshift b₀ 24 (by decide),
    hshift b₁ 16 (by decide), hshift b₂ 8 (by decide), UInt8.toNat_toUInt64]
  have h16 : UInt64.toNat 16 = 16 := rfl
  have h8 : UInt64.toNat 8 = 8 := rfl
  have h24 : UInt64.toNat 24 = 24 := rfl
  have hfirst : b₀.toNat * 2 ^ 24 ||| b₁.toNat * 2 ^ 16 = b₀.toNat * 2 ^ 24 + b₁.toNat * 2 ^ 16 :=
    or_eq_add 24 (by omega) (by omega)
  have hsecond : b₀.toNat * 2 ^ 24 + b₁.toNat * 2 ^ 16 ||| b₂.toNat * 2 ^ 8 =
      b₀.toNat * 2 ^ 24 + b₁.toNat * 2 ^ 16 + b₂.toNat * 2 ^ 8 :=
    or_eq_add 16 (by omega) (by omega)
  rw [h24, h16, h8, hfirst, hsecond, or_eq_add 8 (by omega) (by omega)]
  simp only [eval, List.foldl_cons, List.foldl_nil]
  omega

/-- The pattern of a double is put together from two halves. -/
lemma decodeBinaryDouble_eq_halves {data : Bytes} {b₀ b₁ b₂ b₃ b₄ b₅ b₆ b₇ : UInt8}
    (hlen : 8 ≤ data.length) (hbits : fromWireBits (data.take 8) = [b₀, b₁, b₂, b₃, b₄, b₅, b₆, b₇]) :
    decodeBinaryDouble data =
      (halfBits b₀ b₁ b₂ b₃ <<< 32) ||| (halfBits b₄ b₅ b₆ b₇ &&& 0xFFFFFFFF) := by
  have hhigh := eval_lt [b₀, b₁, b₂, b₃]
  have hlow := eval_lt [b₄, b₅, b₆, b₇]
  have h32 : UInt64.toNat 32 = 32 := rfl
  have hmask : UInt64.toNat 0xFFFFFFFF = 2 ^ 32 - 1 := rfl
  simp only [List.length_cons, List.length_nil] at hhigh hlow
  have hlow' : eval [b₄, b₅, b₆, b₇] % 2 ^ 32 = eval [b₄, b₅, b₆, b₇] := by omega
  have hhigh' : eval [b₀, b₁, b₂, b₃] * 2 ^ 32 % 2 ^ 64 = eval [b₀, b₁, b₂, b₃] * 2 ^ 32 := by omega
  have hpow : 256 ^ [b₄, b₅, b₆, b₇].length = 2 ^ 32 := by norm_num
  have hall := eval_append [b₀, b₁, b₂, b₃] [b₄, b₅, b₆, b₇]
  rw [hpow, List.cons_append, List.cons_append, List.cons_append, List.cons_append, List.nil_append]
    at hall
  have hmod : 32 % 64 = 32 := rfl
  rw [decodeBinaryDouble, if_neg (by omega), hbits, ← UInt64.toNat_inj, UInt64.toNat_ofNat',
    UInt64.toNat_or, UInt64.toNat_and, UInt64.toNat_shiftLeft, toNat_halfBits, toNat_halfBits, h32, hmask,
    hmod, Nat.and_two_pow_sub_one_eq_mod, Nat.shiftLeft_eq, hlow', hhigh', hall,
    or_eq_add 32 (Nat.dvd_mul_left _ _) hlow]
  exact Nat.mod_eq_of_lt (by omega)

end OracleRs
