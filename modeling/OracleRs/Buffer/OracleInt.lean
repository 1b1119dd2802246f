import OracleRs.Buffer.RoundTrip
import OracleRs.Lib.Overflow

set_option relaxedAutoImplicit false
set_option autoImplicit false

/-!
# Signed Oracle integers

The codec of `write_oracle_int` (`buffer/write.rs`) and `read_oracle_int` (`buffer/read.rs`): one byte has
the sign and the number of bytes of the magnitude, which stands behind it. The smallest 64-bit number has no
opposite, so that both directions overflow there.

## Main definitions

* `OracleRs.writeOracleInt`, `OracleRs.readOracleInt` — the two directions, in a program that is built with
  checks for overflows or without.
* `OracleRs.OracleIntReadsBack` — a number is read back from what is written for it.

## Main results

* `OracleRs.oracleIntReadsBack_iff` — without checks every number is read back, with checks every number but
  the smallest.
* `OracleRs.oracleIntRoundTrips_iff` — the numbers that are read back without an overflow.
-/

namespace OracleRs

open Cursor
open Overflow (Build)
open Sink (Writes)

/-! ## The codec -/

/-- The magnitude that `write_oracle_int` writes: `(-value) as u64` or `value as u64`. -/
def oracleMagnitude (build : Build) (value : Int64) : Except Error UInt64 :=
  if value < 0 then (build.negI64 .arithmeticOverflow value).map Int64.toUInt64 else .ok value.toUInt64

/-- The length byte with the sign bit. -/
def oracleLengthByte (negative : Bool) (len : UInt8) : UInt8 := if negative then len ||| 0x80 else len

/-- `write_oracle_int`. -/
def writeOracleInt (build : Build) (value : Int64) : WriteM Unit :=
  if value = 0 then writeU8 0
  else
    match oracleMagnitude build value with
    | .error e => throw e
    | .ok absValue => do
      writeU8 (oracleLengthByte (value < 0) (UInt8.ofNat (byteLength absValue)))
      (BigEndian.digits (byteLength absValue) absValue.toNat).forM writeU8

/-- `read_oracle_int`. -/
def readOracleInt (build : Build) : ReadM Int64 := do
  let lenByte ← readU8
  let isNegative := lenByte &&& 0x80 ≠ 0
  let len := (lenByte &&& 0x7F).toNat
  if len = 0 then
    return 0
  if len > 8 then
    throw (.dataConversionError ("integer too large: " ++ toString len ++ " bytes"))
  -- one byte after the other
  let value := (← times readU8 len).foldl BigEndian.shiftIn 0
  if isNegative then liftExcept (build.negI64 .arithmeticOverflow value.toInt64) else return value.toInt64

/-- What is written for the number is read back as the number, whatever stands behind it. -/
def OracleIntReadsBack (build : Build) (value : Int64) : Prop :=
  ∃ b, Writes (writeOracleInt build value) b ∧ Reads (readOracleInt build) b value

/-! ## The length byte -/

/-- The length byte holds the sign and the length. -/
lemma oracleLengthByte_and (negative : Bool) {len : ℕ} (h : len ≤ 8) :
    (oracleLengthByte negative (UInt8.ofNat len) &&& 0x80 ≠ 0 ↔ negative = true) ∧
      (oracleLengthByte negative (UInt8.ofNat len) &&& 0x7F).toNat = len := by
  have hall : ∀ n : Fin 9, ∀ b : Bool, (oracleLengthByte b (UInt8.ofNat n) &&& 0x80 ≠ 0 ↔ b = true) ∧
      (oracleLengthByte b (UInt8.ofNat n) &&& 0x7F).toNat = n := by decide
  exact hall ⟨len, Nat.lt_succ_of_le h⟩ negative

/-! ## The round trip -/

section RoundTrip

variable {build : Build} {value : Int64} {absValue : UInt64}

/-- A number is read back if its magnitude does not overflow, and the sign gives the number back. -/
lemma readsBack_of_magnitude (hvalue : value ≠ 0) (hne : absValue ≠ 0)
    (hwrite : oracleMagnitude build value = .ok absValue)
    (hread : (if value < 0 then liftExcept (build.negI64 .arithmeticOverflow absValue.toInt64)
      else pure absValue.toInt64 : ReadM Int64) = pure value) : OracleIntReadsBack build value := by
  obtain ⟨hpos, hle, -⟩ := byteLength_spec hne
  obtain ⟨hsign, hlen⟩ := oracleLengthByte_and (value < 0) hle
  refine ⟨oracleLengthByte (value < 0) (UInt8.ofNat (byteLength absValue)) ::
    BigEndian.digits (byteLength absValue) absValue.toNat, ?_, ?_⟩
  · rw [writeOracleInt, if_neg hvalue, hwrite]
    exact (writes_writeU8 _).bind (writes_forM_writeU8 _)
  · have hdigits := reads_times_readU8 (BigEndian.digits (byteLength absValue) absValue.toNat)
    rw [BigEndian.length_digits] at hdigits
    refine (reads_readU8 _).cons ?_
    simp only [hlen, hsign, decide_eq_true_eq]
    rw [if_neg (by omega), if_neg (by omega)]
    refine hdigits.bind_nil ?_
    rw [foldl_shiftIn_digits hne, hread]
    exact Reads.pure value

lemma readsBack_zero (build : Build) : OracleIntReadsBack build 0 :=
  ⟨[0], writes_writeU8 0, (reads_readU8 0).bind_nil (Reads.pure _)⟩

/-- A number without a sign is its own magnitude. -/
lemma readsBack_of_pos (hvalue : value ≠ 0) (hsign : ¬ value < 0) : OracleIntReadsBack build value := by
  have hback : value.toUInt64.toInt64 = value := value.toInt64_toUInt64
  refine readsBack_of_magnitude hvalue ?_ (if_neg hsign) ?_
  · intro hzero
    rw [hzero] at hback
    exact hvalue hback.symm
  · rw [if_neg hsign, hback]

/-- The opposite of the opposite is the number, where opposites do not overflow. -/
lemma negI64_neg (h : build = .wrapping ∨ value ≠ Int64.minValue) :
    build.negI64 Error.arithmeticOverflow value = .ok (-value) ∧
      build.negI64 Error.arithmeticOverflow (-value) = .ok value := by
  rcases h with rfl | h
  · exact ⟨Build.result_wrapping, by rw [Build.negI64, Build.result_wrapping, Int64.neg_neg]⟩
  · refine ⟨Build.result_of h, ?_⟩
    have hneg : -value ≠ Int64.minValue := fun hmin => h (by
      rw [← @Int64.neg_neg value, hmin]
      rfl)
    rw [Build.negI64, Build.result_of hneg, Int64.neg_neg]

/-- A negative number is read back if it has an opposite, or overflows are not checked. -/
lemma readsBack_of_neg (hsign : value < 0) (h : build = .wrapping ∨ value ≠ Int64.minValue) :
    OracleIntReadsBack build value := by
  obtain ⟨hneg, hback⟩ := negI64_neg h
  have hmagnitude : (-value).toUInt64.toInt64 = -value := (-value).toInt64_toUInt64
  have hvalue : value ≠ 0 := fun hzero => absurd hsign (by rw [hzero]; decide)
  refine readsBack_of_magnitude hvalue ?_ (by rw [oracleMagnitude, if_pos hsign, hneg]; rfl) ?_
  · intro hzero
    rw [hzero] at hmagnitude
    exact hvalue (by rw [← @Int64.neg_neg value, ← hmagnitude]; rfl)
  · rw [if_pos hsign, hmagnitude, hback]
    rfl

/-- With checks the smallest number is not even written. -/
lemma not_readsBack_minValue : ¬ OracleIntReadsBack .checked Int64.minValue := by
  rintro ⟨b, hwrite, -⟩
  have hok := hwrite Sink.empty (Sink.hasRoom_empty _)
  cases hok

end RoundTrip

/-- Without checks for overflows every number is read back, with checks every number but the smallest. -/
theorem oracleIntReadsBack_iff (build : Build) (value : Int64) :
    OracleIntReadsBack build value ↔ build = .wrapping ∨ value ≠ Int64.minValue := by
  constructor
  · intro h
    cases build with
    | wrapping => exact .inl rfl
    | checked =>
      refine .inr fun hvalue => not_readsBack_minValue ?_
      rwa [hvalue] at h
  · intro h
    by_cases hzero : value = 0
    · rw [hzero]
      exact readsBack_zero build
    by_cases hsign : value < 0
    · exact readsBack_of_neg hsign h
    · exact readsBack_of_pos hzero hsign

/-- The number is read back, and neither direction overflows: with checks an overflow is a failure. -/
def OracleIntRoundTrips (value : Int64) : Prop := ∀ build, OracleIntReadsBack build value

/-- Every number but the smallest is read back without an overflow. -/
theorem oracleIntRoundTrips_iff (value : Int64) : OracleIntRoundTrips value ↔ value ≠ Int64.minValue := by
  constructor
  · intro h
    exact ((oracleIntReadsBack_iff .checked value).mp (h .checked)).resolve_left (by decide)
  · intro h build
    exact (oracleIntReadsBack_iff build value).mpr (.inr h)

/-- The opposite of the smallest number overflows. -/
theorem not_oracleIntRoundTrips_minValue : ¬ OracleIntRoundTrips Int64.minValue :=
  fun h => not_readsBack_minValue (h .checked)

end OracleRs
