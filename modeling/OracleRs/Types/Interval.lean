import OracleRs.Constants
import OracleRs.Lib.BigEndian

set_option relaxedAutoImplicit false
set_option autoImplicit false

/-!
# Oracle INTERVAL values

The codecs of `types/interval.rs`. Years, days and fractional seconds are written as 32-bit
numbers in excess of `2 ^ 31`, the other parts as bytes in excess of 60. The parts of an interval
are `i32` values in the source and `Int32` values here.

## Main definitions

* `OracleRs.OracleIntervalYM`, `OracleRs.OracleIntervalDS` — decoded values.
* `OracleRs.encodeOracleIntervalYm`, `OracleRs.decodeOracleIntervalYm`,
  `OracleRs.encodeOracleIntervalDs`, `OracleRs.decodeOracleIntervalDs` — the codecs.

## Main results

* `OracleRs.decodeOracleIntervalYm_encode_iff`, `OracleRs.decodeOracleIntervalDs_encode_iff` —
  which values are read back.
* `OracleRs.intervalCodecs_inverse` — the codecs are inverse to each other.
-/

namespace OracleRs

/-- Oracle INTERVAL YEAR TO MONTH. -/
structure OracleIntervalYM where
  /-- the number of years -/
  years : Int32
  /-- the number of months -/
  months : Int32
deriving DecidableEq, Repr

/-- Oracle INTERVAL DAY TO SECOND. -/
structure OracleIntervalDS where
  /-- the number of days -/
  days : Int32
  /-- the number of hours -/
  hours : Int32
  /-- the number of minutes -/
  minutes : Int32
  /-- the number of seconds -/
  seconds : Int32
  /-- fractional seconds in nanoseconds -/
  fseconds : Int32
deriving DecidableEq, Repr

/-- `read_excess_i32`. -/
def readExcessI32 (data : Bytes) : Int32 := Int32.ofInt ((BigEndian.eval data : ℤ) - 2 ^ 31)

/-- `write_excess_i32`. -/
def writeExcessI32 (value : Int32) : Bytes := BigEndian.digits 4 (value.toInt + 2 ^ 31).toNat

/-- A part in excess of `DURATION_OFFSET`. -/
def readOffset (b : UInt8) : Int32 := Int32.ofInt ((b.toNat : ℤ) - 60)

/-- A part in excess of `DURATION_OFFSET`, as a byte. -/
def writeOffset (part : Int32) : UInt8 := UInt8.ofInt (part + 60).toInt

/-- `decode_oracle_interval_ym`. -/
def decodeOracleIntervalYm (data : Bytes) : Except Error OracleIntervalYM :=
  if data.length < 5 then
    .error (.dataConversionError
      ("INTERVAL YEAR TO MONTH requires 5 bytes, got " ++ toString data.length))
  else
    .ok ⟨readExcessI32 (data.take 4), readOffset (data.getD 4 0)⟩

/-- `decode_oracle_interval_ds`. -/
def decodeOracleIntervalDs (data : Bytes) : Except Error OracleIntervalDS :=
  if data.length < 11 then
    .error (.dataConversionError
      ("INTERVAL DAY TO SECOND requires 11 bytes, got " ++ toString data.length))
  else
    .ok {
      days := readExcessI32 (data.take 4)
      hours := readOffset (data.getD 4 0)
      minutes := readOffset (data.getD 5 0)
      seconds := readOffset (data.getD 6 0)
      fseconds := readExcessI32 ((data.drop 7).take 4) }

/-- `encode_oracle_interval_ym`: five bytes. -/
def encodeOracleIntervalYm (interval : OracleIntervalYM) : Bytes :=
  writeExcessI32 interval.years ++ [writeOffset interval.months]

/-- `encode_oracle_interval_ds`: eleven bytes. -/
def encodeOracleIntervalDs (interval : OracleIntervalDS) : Bytes :=
  writeExcessI32 interval.days ++
    [writeOffset interval.hours, writeOffset interval.minutes, writeOffset interval.seconds] ++
    writeExcessI32 interval.fseconds

/-! ## Which values are read back -/

/-- Every 32-bit part is read back. -/
lemma readExcessI32_writeExcessI32 (value : Int32) :
    readExcessI32 (writeExcessI32 value) = value := by
  have hlow := value.le_toInt
  have hhigh := value.toInt_lt
  have heval : BigEndian.eval (writeExcessI32 value) = (value.toInt + 2 ^ 31).toNat :=
    BigEndian.eval_digits 4 _ (by omega)
  have hback : (((value.toInt + 2 ^ 31).toNat : ℕ) : ℤ) - 2 ^ 31 = value.toInt := by omega
  rw [readExcessI32, heval, hback, Int32.ofInt_toInt]

@[simp] lemma length_writeExcessI32 (value : Int32) : (writeExcessI32 value).length = 4 := by
  simp [writeExcessI32]

/-- The part fits a byte in excess of 60. -/
def FitsOffset (part : Int32) : Prop := -60 ≤ part.toInt ∧ part.toInt ≤ 195

/-- A part is read back exactly when it fits its byte. -/
lemma readOffset_writeOffset_iff (part : Int32) :
    readOffset (writeOffset part) = part ↔ FitsOffset part := by
  have hsum : (part + 60).toInt % 256 = (part.toInt + 60) % 256 := by
    rw [Int32.toInt_add, show (60 : Int32).toInt = 60 from rfl, Int.bmod_def]
    split <;> omega
  have hbyte : ((writeOffset part).toNat : ℤ) = (part.toInt + 60) % 256 := by
    rw [← hsum]
    simp only [writeOffset, UInt8.ofInt, UInt8.toNat_ofNat']
    omega
  have hback : (readOffset (writeOffset part)).toInt = (part.toInt + 60) % 256 - 60 := by
    rw [readOffset, hbyte]
    exact Int32.toInt_ofInt_of_le (by omega) (by omega)
  rw [← Int32.toInt_inj, hback, FitsOffset]
  omega

/-- A year-to-month interval is read back exactly when its months fit a byte. -/
lemma decodeOracleIntervalYm_encode_iff (interval : OracleIntervalYM) :
    decodeOracleIntervalYm (encodeOracleIntervalYm interval) = .ok interval ↔
      FitsOffset interval.months := by
  obtain ⟨years, months⟩ := interval
  have hlen : (encodeOracleIntervalYm ⟨years, months⟩).length = 5 := by
    simp [encodeOracleIntervalYm]
  have hyears : (encodeOracleIntervalYm ⟨years, months⟩).take 4 = writeExcessI32 years := by
    rw [encodeOracleIntervalYm, List.take_left' (length_writeExcessI32 years)]
  have hmonths : (encodeOracleIntervalYm ⟨years, months⟩).getD 4 0 = writeOffset months := by
    simp [encodeOracleIntervalYm, List.getD_eq_getElem?_getD]
  rw [decodeOracleIntervalYm, if_neg (by omega), hyears, hmonths, readExcessI32_writeExcessI32]
  simp [readOffset_writeOffset_iff]

/-- A day-to-second interval is read back exactly when its hours, minutes and seconds fit a
byte. -/
lemma decodeOracleIntervalDs_encode_iff (interval : OracleIntervalDS) :
    decodeOracleIntervalDs (encodeOracleIntervalDs interval) = .ok interval ↔
      FitsOffset interval.hours ∧ FitsOffset interval.minutes ∧ FitsOffset interval.seconds := by
  obtain ⟨days, hours, minutes, seconds, fseconds⟩ := interval
  have hdata : encodeOracleIntervalDs ⟨days, hours, minutes, seconds, fseconds⟩ =
      writeExcessI32 days ++ (writeOffset hours :: writeOffset minutes :: writeOffset seconds ::
        writeExcessI32 fseconds) := by
    simp [encodeOracleIntervalDs]
  rw [hdata, decodeOracleIntervalDs, if_neg (by simp)]
  have hdays := length_writeExcessI32 days
  simp only [List.take_left' hdays, List.getD_eq_getElem?_getD, List.getElem?_append_right,
    hdays, le_refl, show 4 ≤ 5 by omega, show 4 ≤ 6 by omega, Nat.sub_self, Nat.reduceSub,
    List.getElem?_cons_zero, List.getElem?_cons_succ, Option.getD_some, List.drop_append,
    readExcessI32_writeExcessI32]
  simp [readOffset_writeOffset_iff, hdays, List.drop_eq_nil_of_le, List.take_of_length_le,
    readExcessI32_writeExcessI32]

/-! ## The codecs are inverse -/

/-- Four bytes are written again as they have been read. -/
lemma writeExcessI32_readExcessI32 {data : Bytes} (h : data.length = 4) :
    writeExcessI32 (readExcessI32 data) = data := by
  have hlt := BigEndian.eval_lt data
  rw [h] at hlt
  have hpart : (readExcessI32 data).toInt = (BigEndian.eval data : ℤ) - 2 ^ 31 :=
    Int32.toInt_ofInt_of_le (by omega) (by omega)
  have hback : ((BigEndian.eval data : ℤ) - 2 ^ 31 + 2 ^ 31).toNat = BigEndian.eval data := by omega
  rw [writeExcessI32, hpart, hback, ← h, BigEndian.digits_eval]

/-- A byte is a part that fits. -/
lemma fitsOffset_readOffset (b : UInt8) : FitsOffset (readOffset b) := by
  have hlt := b.toNat_lt
  have hpart : (readOffset b).toInt = (b.toNat : ℤ) - 60 :=
    Int32.toInt_ofInt_of_le (by omega) (by omega)
  rw [FitsOffset, hpart]
  omega

/-- A byte is written again as it has been read. -/
lemma writeOffset_readOffset (b : UInt8) : writeOffset (readOffset b) = b := by
  have hlt := b.toNat_lt
  have hpart : (readOffset b).toInt = (b.toNat : ℤ) - 60 :=
    Int32.toInt_ofInt_of_le (by omega) (by omega)
  have hsum : (readOffset b + 60).toInt = b.toNat := by
    rw [Int32.toInt_add, hpart, show (60 : Int32).toInt = 60 from rfl, Int.bmod_def]
    split <;> omega
  rw [writeOffset, hsum, ← UInt8.toNat_inj]
  simp only [UInt8.ofInt, UInt8.toNat_ofNat']
  omega

/-- The byte at a position stands in front of those behind it. -/
lemma drop_eq_getD_cons {data : Bytes} {i : ℕ} (h : i < data.length) :
    data.drop i = data.getD i 0 :: data.drop (i + 1) := by
  rw [List.drop_eq_getElem_cons h, List.getD_eq_getElem?_getD, List.getElem?_eq_getElem h]
  rfl

/-- Five bytes are an interval that is written with the same bytes. -/
lemma exists_decodeOracleIntervalYm {data : Bytes} (h : data.length = 5) :
    ∃ interval, decodeOracleIntervalYm data = .ok interval ∧ encodeOracleIntervalYm interval = data := by
  refine ⟨_, if_neg (by omega), ?_⟩
  have hyears : (data.take 4).length = 4 := by rw [List.length_take, h]; rfl
  have hend : data.drop 5 = [] := List.drop_eq_nil_of_le h.le
  have hmonths : data.drop 4 = [data.getD 4 0] := by rw [drop_eq_getD_cons (by omega), hend]
  rw [encodeOracleIntervalYm, writeExcessI32_readExcessI32 hyears, writeOffset_readOffset, ← hmonths,
    List.take_append_drop]

/-- Eleven bytes are an interval that is written with the same bytes. -/
lemma exists_decodeOracleIntervalDs {data : Bytes} (h : data.length = 11) :
    ∃ interval, decodeOracleIntervalDs data = .ok interval ∧ encodeOracleIntervalDs interval = data := by
  refine ⟨_, if_neg (by omega), ?_⟩
  have hdays : (data.take 4).length = 4 := by rw [List.length_take, h]; rfl
  have hfseconds : (data.drop 7).length = 4 := by rw [List.length_drop, h]
  have htake : (data.drop 7).take 4 = data.drop 7 := List.take_of_length_le hfseconds.le
  have hmiddle : data.drop 4 = [data.getD 4 0, data.getD 5 0, data.getD 6 0] ++ data.drop 7 := by
    rw [drop_eq_getD_cons (by omega), drop_eq_getD_cons (by omega), drop_eq_getD_cons (by omega)]
    rfl
  rw [encodeOracleIntervalDs, htake, writeExcessI32_readExcessI32 hdays,
    writeExcessI32_readExcessI32 hfseconds, writeOffset_readOffset, writeOffset_readOffset,
    writeOffset_readOffset, List.append_assoc, ← hmiddle, List.take_append_drop]

/-- **The codecs of intervals are inverse to each other**: on the byte strings of their lengths, and on the
intervals whose months, hours, minutes and seconds fit their bytes. -/
theorem intervalCodecs_inverse :
    (∀ data : Bytes, data.length = 5 → ∃ interval,
      decodeOracleIntervalYm data = .ok interval ∧ encodeOracleIntervalYm interval = data) ∧
    (∀ data : Bytes, data.length = 11 → ∃ interval,
      decodeOracleIntervalDs data = .ok interval ∧ encodeOracleIntervalDs interval = data) ∧
    (∀ interval : OracleIntervalYM, -60 ≤ interval.months.toInt ∧ interval.months.toInt ≤ 195 →
      decodeOracleIntervalYm (encodeOracleIntervalYm interval) = .ok interval) ∧
    ∀ interval : OracleIntervalDS, -60 ≤ interval.hours.toInt ∧ interval.hours.toInt ≤ 195 →
      -60 ≤ interval.minutes.toInt ∧ interval.minutes.toInt ≤ 195 →
      -60 ≤ interval.seconds.toInt ∧ interval.seconds.toInt ≤ 195 →
      decodeOracleIntervalDs (encodeOracleIntervalDs interval) = .ok interval := by
  refine ⟨fun data => exists_decodeOracleIntervalYm, fun data => exists_decodeOracleIntervalDs,
    fun interval => (decodeOracleIntervalYm_encode_iff interval).mpr,
    fun interval hhours hminutes hseconds => ?_⟩
  exact (decodeOracleIntervalDs_encode_iff interval).mpr ⟨hhours, hminutes, hseconds⟩

theorem intervalCodecs_inverse_fiveBytes :
    ∃ interval, decodeOracleIntervalYm [128, 0, 0, 5, 63] = .ok interval ∧
      encodeOracleIntervalYm interval = [128, 0, 0, 5, 63] :=
  intervalCodecs_inverse.1 _ rfl

end OracleRs
