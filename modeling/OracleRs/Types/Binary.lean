import OracleRs.Constants
import OracleRs.Lib.BigEndian

set_option relaxedAutoImplicit false
set_option autoImplicit false

/-!
# Oracle BINARY_FLOAT and BINARY_DOUBLE

The codecs of `types/binary.rs`. A floating-point number is its bit pattern (`f32::to_bits`,
`f64::to_bits`): the codecs change the sign bit of a pattern so that byte strings are ordered as
the numbers are, and no arithmetic is done.

## Main definitions

* `OracleRs.decodeBinaryFloat`, `OracleRs.decodeBinaryDouble`, `OracleRs.encodeBinaryDouble` — the
  codecs.
* `OracleRs.widen`, `OracleRs.narrow` — the double of a single-precision number, and the
  single-precision number nearest to a double.

## Main results

* `OracleRs.decodeBinaryDouble_encodeBinaryDouble`, `OracleRs.decodeBinaryFloat_encodeBinaryFloat`
  — every bit pattern is read back.
* `OracleRs.widen_narrow_widen` — doubles with the value of a single-precision number keep it.
-/

namespace OracleRs

/-- The bytes of a pattern from its bytes on the wire: clear the sign bit of a positive number,
invert all bytes of a negative one. -/
def fromWireBits : Bytes → Bytes
  | [] => []
  | b :: bs => if b &&& 0x80 ≠ 0 then (b &&& 0x7F) :: bs else (b :: bs).map (~~~·)

/-- The bytes on the wire from the bytes of a pattern. -/
def toWireBits : Bytes → Bytes
  | [] => []
  | b :: bs => if b &&& 0x80 = 0 then (b ||| 0x80) :: bs else (b :: bs).map (~~~·)

/-- `decode_binary_float`; a short byte string is decoded to zero. -/
def decodeBinaryFloat (data : Bytes) : UInt32 :=
  if data.length < 4 then 0 else UInt32.ofNat (BigEndian.eval (fromWireBits (data.take 4)))

/-- `decode_binary_double`; a short byte string is decoded to zero. -/
def decodeBinaryDouble (data : Bytes) : UInt64 :=
  if data.length < 8 then 0 else UInt64.ofNat (BigEndian.eval (fromWireBits (data.take 8)))

/-- `encode_binary_double`: eight bytes. -/
def encodeBinaryDouble (value : UInt64) : Bytes := toWireBits (BigEndian.digits 8 value.toNat)

/-- `encode_binary_float`: four bytes. -/
def encodeBinaryFloat (value : UInt32) : Bytes := toWireBits (BigEndian.digits 4 value.toNat)

/-- `f32 as f64` on bit patterns: numbers keep their value, infinities and NaNs their kind. -/
def widen (bits : UInt32) : UInt64 :=
  let n := bits.toNat
  let sign := n / 2 ^ 31
  let exponent := n / 2 ^ 23 % 2 ^ 8
  let fraction := n % 2 ^ 23
  let (exponent, fraction) :=
    if exponent = 255 then
      (2047, if fraction = 0 then 0 else 2 ^ 51 + fraction % 2 ^ 22 * 2 ^ 29)
    else if exponent ≠ 0 then
      (exponent + 896, fraction * 2 ^ 29)
    else if fraction = 0 then
      (0, 0)
    else
      -- a subnormal number becomes a normal one
      (fraction.log2 + 874, (fraction - 2 ^ fraction.log2) * 2 ^ (52 - fraction.log2))
  UInt64.ofNat (sign * 2 ^ 63 + exponent * 2 ^ 52 + fraction)

/-- A number divided by `2 ^ shift` and rounded to the nearest integer, to an even one from the
middle. -/
def roundHalfEven (n shift : ℕ) : ℕ :=
  let quotient := n / 2 ^ shift
  let remainder := n % 2 ^ shift
  if 2 ^ shift < 2 * remainder ∨ (2 * remainder = 2 ^ shift ∧ quotient % 2 = 1) then quotient + 1
  else quotient

/-- `f64 as f32` on bit patterns: the nearest number; a NaN becomes a quiet NaN. -/
def narrow (bits : UInt64) : UInt32 :=
  let n := bits.toNat
  let sign := n / 2 ^ 63
  let exponent := n / 2 ^ 52 % 2 ^ 11
  let fraction := n % 2 ^ 52
  let magnitude :=
    if exponent = 2047 then
      255 * 2 ^ 23 + if fraction = 0 then 0 else 2 ^ 22 + fraction / 2 ^ 29 % 2 ^ 22
    else if 897 ≤ exponent then
      min ((exponent - 897) * 2 ^ 23 + roundHalfEven (2 ^ 52 + fraction) 29) (255 * 2 ^ 23)
    else if exponent ≠ 0 then
      -- a number below the normal numbers of single precision
      roundHalfEven (2 ^ 52 + fraction) (926 - exponent)
    else 0
  UInt32.ofNat (sign * 2 ^ 31 + magnitude)

/-- A statement about every byte. -/
lemma forall_byte {p : UInt8 → Prop} (h : ∀ n : Fin 256, p (UInt8.ofNat n)) (b : UInt8) :
    p b := by
  have := h ⟨b.toNat, b.toNat_lt⟩
  rwa [UInt8.ofNat_toNat] at this

/-- The bytes of a pattern are read back. -/
lemma fromWireBits_toWireBits (bs : Bytes) : fromWireBits (toWireBits bs) = bs := by
  cases bs with
  | nil => rfl
  | cons b bs =>
    have hpos : ∀ b : UInt8, b &&& 0x80 = 0 → (b ||| 0x80) &&& 0x80 ≠ 0 ∧
        (b ||| 0x80) &&& 0x7F = b := forall_byte (by decide +kernel)
    have hneg : ∀ b : UInt8, b &&& 0x80 ≠ 0 → ¬ (~~~b) &&& 0x80 ≠ 0 := forall_byte (by decide +kernel)
    by_cases h : b &&& 0x80 = 0
    · rw [toWireBits, if_pos h, fromWireBits, if_pos (hpos b h).1, (hpos b h).2]
    · have hnot : (fun x : UInt8 => ~~~x) ∘ (fun x => ~~~x) = id := by
        funext x
        exact UInt8.not_not
      rw [toWireBits, if_neg h, List.map_cons, fromWireBits, if_neg (hneg b h), List.map_cons,
        UInt8.not_not, List.map_map, hnot, List.map_id]

@[simp] lemma length_toWireBits (bs : Bytes) : (toWireBits bs).length = bs.length := by
  cases bs with
  | nil => rfl
  | cons b bs => simp only [toWireBits]; split <;> simp

@[simp] lemma length_encodeBinaryDouble (value : UInt64) :
    (encodeBinaryDouble value).length = 8 := by
  simp [encodeBinaryDouble]

@[simp] lemma length_encodeBinaryFloat (value : UInt32) : (encodeBinaryFloat value).length = 4 := by
  simp [encodeBinaryFloat]

/-- Every bit pattern of single precision is read back. -/
lemma decodeBinaryFloat_encodeBinaryFloat (value : UInt32) :
    decodeBinaryFloat (encodeBinaryFloat value) = value := by
  have hlen := length_encodeBinaryFloat value
  rw [decodeBinaryFloat, if_neg (by omega), List.take_of_length_le hlen.le, encodeBinaryFloat,
    fromWireBits_toWireBits, BigEndian.eval_digits _ _ value.toNat_lt, UInt32.ofNat_toNat]

/-- Every bit pattern is read back. -/
lemma decodeBinaryDouble_encodeBinaryDouble (value : UInt64) :
    decodeBinaryDouble (encodeBinaryDouble value) = value := by
  have hlen := length_encodeBinaryDouble value
  rw [decodeBinaryDouble, if_neg (by omega), List.take_of_length_le hlen.le, encodeBinaryDouble,
    fromWireBits_toWireBits, BigEndian.eval_digits _ _ value.toNat_lt, UInt64.ofNat_toNat]

/-! ## Single and double precision -/

/-- The exponent and fraction of a double with the value of a single-precision number. -/
def widenParts (exponent fraction : ℕ) : ℕ × ℕ :=
  if exponent = 255 then
    (2047, if fraction = 0 then 0 else 2 ^ 51 + fraction % 2 ^ 22 * 2 ^ 29)
  else if exponent ≠ 0 then
    (exponent + 896, fraction * 2 ^ 29)
  else if fraction = 0 then
    (0, 0)
  else
    (fraction.log2 + 874, (fraction - 2 ^ fraction.log2) * 2 ^ (52 - fraction.log2))

lemma widen_eq (bits : UInt32) : widen bits = UInt64.ofNat (bits.toNat / 2 ^ 31 * 2 ^ 63 +
    (widenParts (bits.toNat / 2 ^ 23 % 2 ^ 8) (bits.toNat % 2 ^ 23)).1 * 2 ^ 52 +
    (widenParts (bits.toNat / 2 ^ 23 % 2 ^ 8) (bits.toNat % 2 ^ 23)).2) := rfl

lemma widen_fields {sign exponent fraction : ℕ} (hs : sign ≤ 1) (he : exponent < 2 ^ 8)
    (hf : fraction < 2 ^ 23) :
    widen (UInt32.ofNat (sign * 2 ^ 31 + exponent * 2 ^ 23 + fraction)) =
      UInt64.ofNat (sign * 2 ^ 63 + (widenParts exponent fraction).1 * 2 ^ 52 +
        (widenParts exponent fraction).2) := by
  have hn : (UInt32.ofNat (sign * 2 ^ 31 + exponent * 2 ^ 23 + fraction)).toNat =
      sign * 2 ^ 31 + exponent * 2 ^ 23 + fraction := by
    rw [UInt32.toNat_ofNat']
    omega
  have h₁ : (sign * 2 ^ 31 + exponent * 2 ^ 23 + fraction) / 2 ^ 31 = sign := by omega
  have h₂ : (sign * 2 ^ 31 + exponent * 2 ^ 23 + fraction) / 2 ^ 23 % 2 ^ 8 = exponent := by omega
  have h₃ : (sign * 2 ^ 31 + exponent * 2 ^ 23 + fraction) % 2 ^ 23 = fraction := by omega
  rw [widen_eq, hn, h₁, h₂, h₃]
lemma roundHalfEven_mul (q shift : ℕ) : roundHalfEven (q * 2 ^ shift) shift = q := by
  have hpos := Nat.two_pow_pos shift
  rw [roundHalfEven, Nat.mul_mod_left, Nat.mul_div_cancel _ hpos, if_neg (by omega)]

lemma narrow_fields {sign exponent fraction : ℕ} (hs : sign ≤ 1) (he : exponent < 2 ^ 11)
    (hf : fraction < 2 ^ 52) :
    narrow (UInt64.ofNat (sign * 2 ^ 63 + exponent * 2 ^ 52 + fraction)) =
      UInt32.ofNat (sign * 2 ^ 31 +
        if exponent = 2047 then
          255 * 2 ^ 23 + if fraction = 0 then 0 else 2 ^ 22 + fraction / 2 ^ 29 % 2 ^ 22
        else if 897 ≤ exponent then
          min ((exponent - 897) * 2 ^ 23 + roundHalfEven (2 ^ 52 + fraction) 29) (255 * 2 ^ 23)
        else if exponent ≠ 0 then roundHalfEven (2 ^ 52 + fraction) (926 - exponent)
        else 0) := by
  have hn : (UInt64.ofNat (sign * 2 ^ 63 + exponent * 2 ^ 52 + fraction)).toNat =
      sign * 2 ^ 63 + exponent * 2 ^ 52 + fraction := by
    rw [UInt64.toNat_ofNat']
    omega
  have h₁ : (sign * 2 ^ 63 + exponent * 2 ^ 52 + fraction) / 2 ^ 63 = sign := by omega
  have h₂ : (sign * 2 ^ 63 + exponent * 2 ^ 52 + fraction) / 2 ^ 52 % 2 ^ 11 = exponent := by omega
  have h₃ : (sign * 2 ^ 63 + exponent * 2 ^ 52 + fraction) % 2 ^ 52 = fraction := by omega
  simp only [narrow, hn, h₁, h₂, h₃]

/-- A normal number of single precision is the nearest one to itself. -/
lemma narrow_normal {sign exponent fraction : ℕ} (hs : sign ≤ 1) (he : exponent < 255)
    (hpos : exponent ≠ 0) (hf : fraction < 2 ^ 23) :
    narrow (UInt64.ofNat (sign * 2 ^ 63 + (exponent + 896) * 2 ^ 52 + fraction * 2 ^ 29)) =
      UInt32.ofNat (sign * 2 ^ 31 + exponent * 2 ^ 23 + fraction) := by
  have hround : 2 ^ 52 + fraction * 2 ^ 29 = (2 ^ 23 + fraction) * 2 ^ 29 := by omega
  have hmin : min ((exponent + 896 - 897) * 2 ^ 23 + (2 ^ 23 + fraction)) (255 * 2 ^ 23) =
      exponent * 2 ^ 23 + fraction := by omega
  rw [narrow_fields hs (by omega) (by omega), if_neg (by omega), if_pos (by omega), hround,
    roundHalfEven_mul, hmin, Nat.add_assoc]

/-- So is a subnormal one. -/
lemma narrow_subnormal {sign fraction : ℕ} (hs : sign ≤ 1) (hzero : fraction ≠ 0)
    (hf : fraction < 2 ^ 23) :
    narrow (UInt64.ofNat (sign * 2 ^ 63 + (fraction.log2 + 874) * 2 ^ 52 +
        (fraction - 2 ^ fraction.log2) * 2 ^ (52 - fraction.log2))) =
      UInt32.ofNat (sign * 2 ^ 31 + fraction) := by
  have hlog : fraction.log2 < 23 := (Nat.log2_lt hzero).mpr hf
  have hle : 2 ^ fraction.log2 ≤ fraction := Nat.log2_self_le hzero
  have hlt : fraction < 2 ^ (fraction.log2 + 1) := Nat.lt_log2_self
  have hpow : 2 ^ fraction.log2 * 2 ^ (52 - fraction.log2) = 2 ^ 52 := by
    rw [← pow_add]
    congr 1
    omega
  have hprod : (fraction - 2 ^ fraction.log2) * 2 ^ (52 - fraction.log2) =
      fraction * 2 ^ (52 - fraction.log2) - 2 ^ 52 := by rw [Nat.sub_mul, hpow]
  have hsmall : fraction * 2 ^ (52 - fraction.log2) < 2 ^ 53 := by
    calc fraction * 2 ^ (52 - fraction.log2)
        < 2 ^ (fraction.log2 + 1) * 2 ^ (52 - fraction.log2) :=
          Nat.mul_lt_mul_of_pos_right hlt (Nat.two_pow_pos _)
      _ = 2 ^ 53 := by rw [← pow_add]; congr 1; omega
  have hlarge : 2 ^ 52 ≤ fraction * 2 ^ (52 - fraction.log2) := by
    rw [← hpow]
    exact Nat.mul_le_mul_right _ hle
  have hshift : 926 - (fraction.log2 + 874) = 52 - fraction.log2 := by omega
  rw [hprod, narrow_fields hs (by omega) (by omega), if_neg (by omega), if_neg (by omega),
    if_pos (by omega), hshift, Nat.add_sub_cancel' hlarge, roundHalfEven_mul]

/-- A double with the value of a single-precision number keeps it in single precision.

**Proof sketch.** Only a NaN is changed by the way back, which sets its quiet bit; the way forth
does the same. -/
lemma widen_narrow_widen (bits : UInt32) : widen (narrow (widen bits)) = widen bits := by
  have hlt := bits.toNat_lt
  obtain ⟨sign, exponent, fraction, hs, he, hf, rfl⟩ : ∃ sign exponent fraction : ℕ,
      sign ≤ 1 ∧ exponent < 2 ^ 8 ∧ fraction < 2 ^ 23 ∧
        bits = UInt32.ofNat (sign * 2 ^ 31 + exponent * 2 ^ 23 + fraction) := by
    refine ⟨bits.toNat / 2 ^ 31, bits.toNat / 2 ^ 23 % 2 ^ 8, bits.toNat % 2 ^ 23, by omega,
      by omega, by omega, ?_⟩
    rw [← UInt32.toNat_inj, UInt32.toNat_ofNat']
    omega
  by_cases hmax : exponent = 255
  · -- infinity or NaN
    rw [hmax] at he ⊢
    have hparts : ∀ f, widenParts 255 f = (2047, if f = 0 then 0 else 2 ^ 51 + f % 2 ^ 22 * 2 ^ 29) :=
      fun _ => rfl
    rw [widen_fields hs he hf, hparts, narrow_fields hs (by omega) (by split_ifs <;> omega), if_pos rfl]
    by_cases hzero : fraction = 0
    · have hback := @widen_fields _ _ 0 hs he (by omega)
      rw [hparts] at hback
      simpa only [hzero, if_true, Nat.add_zero] using hback
    · have hquiet : (2 ^ 51 + fraction % 2 ^ 22 * 2 ^ 29) / 2 ^ 29 % 2 ^ 22 = fraction % 2 ^ 22 := by
        omega
      have hback := @widen_fields _ _ (2 ^ 22 + fraction % 2 ^ 22) hs he (by omega)
      rw [hparts, if_neg (by omega), Nat.add_mod_left, Nat.mod_mod] at hback
      rw [if_neg hzero, if_neg (by omega), hquiet, ← Nat.add_assoc (sign * 2 ^ 31)]
      exact hback
  · refine congrArg widen ?_
    by_cases hzero : exponent = 0
    · subst hzero
      by_cases hsub : fraction = 0
      · subst hsub
        rw [widen_fields hs he hf, show widenParts 0 0 = (0, 0) from rfl, narrow_fields hs (by omega) (by omega)]
        simp only [if_neg (show ¬ (0 : ℕ) = 2047 by omega), if_neg (show ¬ 897 ≤ 0 by omega),
          ne_eq, not_true, if_false]
        simp
      · rw [widen_fields hs he hf]
        have hparts : widenParts 0 fraction = (fraction.log2 + 874,
            (fraction - 2 ^ fraction.log2) * 2 ^ (52 - fraction.log2)) := by
          simp [widenParts, hsub]
        rw [hparts, narrow_subnormal hs hsub hf]
        simp
    · rw [widen_fields hs he hf]
      have hparts : widenParts exponent fraction = (exponent + 896, fraction * 2 ^ 29) := by
        simp [widenParts, hmax, hzero]
      rw [hparts, narrow_normal hs (by omega) hzero hf]

end OracleRs
