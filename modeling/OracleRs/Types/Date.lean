import OracleRs.Constants
import OracleRs.Lib.BigEndian

set_option relaxedAutoImplicit false
set_option autoImplicit false

/-!
# Oracle DATE and TIMESTAMP

The functions of `types/date.rs` that bind values and columns go through. The year is an integer
(`i32`), the sums of bytes wrap around as they do in a release build.

## Main definitions

* `OracleRs.OracleDate`, `OracleRs.OracleTimestamp` — decoded values.
* `OracleRs.OracleDate.toOracleBytes`, `OracleRs.decodeOracleDate` — the two directions for dates.
* `OracleRs.OracleTimestamp.toOracleBytes`, `OracleRs.decodeOracleTimestamp` — the same for
  timestamps.

## Main results

* `OracleRs.decodeOracleDate_toOracleBytes_iff`, `OracleRs.decodeOracleTimestamp_toOracleBytes_iff`
  — which values are read back.
-/

namespace OracleRs

/-- A decoded Oracle DATE. -/
structure OracleDate where
  /-- the year -/
  year : ℤ
  /-- the month, from 1 on -/
  month : UInt8
  /-- the day, from 1 on -/
  day : UInt8
  /-- the hour -/
  hour : UInt8
  /-- the minute -/
  minute : UInt8
  /-- the second -/
  second : UInt8
deriving DecidableEq, Repr

/-- A decoded Oracle TIMESTAMP with an optional time zone. -/
structure OracleTimestamp extends OracleDate where
  /-- fractional seconds in microseconds -/
  microsecond : UInt32
  /-- hours of the time zone offset -/
  tzHourOffset : Int8 := 0
  /-- minutes of the time zone offset -/
  tzMinuteOffset : Int8 := 0
deriving DecidableEq, Repr

/-- `u8::saturating_sub(1)`. -/
def predSaturating (b : UInt8) : UInt8 := if b = 0 then 0 else b - 1

/-- `OracleDate::to_oracle_bytes`: seven bytes. -/
def OracleDate.toOracleBytes (d : OracleDate) : Bytes :=
  [UInt8.ofInt (d.year.tdiv 100) + 100, UInt8.ofInt (d.year.tmod 100) + 100, d.month, d.day,
    d.hour + 1, d.minute + 1, d.second + 1]

/-- `OracleTimestamp::to_oracle_bytes`: eleven bytes. -/
def OracleTimestamp.toOracleBytes (ts : OracleTimestamp) : Bytes :=
  ts.toOracleDate.toOracleBytes ++ BigEndian.digits 4 (ts.microsecond * 1000).toNat

/-- `decode_oracle_date`. -/
def decodeOracleDate (data : Bytes) : Except Error OracleDate :=
  match data with
  | century :: year :: month :: day :: hour :: minute :: second :: _ =>
    .ok {
      year := ((century.toNat : ℤ) - 100) * 100 + ((year.toNat : ℤ) - 100)
      month := month
      day := day
      hour := predSaturating hour
      minute := predSaturating minute
      second := predSaturating second }
  | _ => .error (.dataConversionError
      ("Oracle DATE requires 7 bytes, got " ++ toString data.length))

/-- `decode_oracle_timestamp`: a DATE, a TIMESTAMP or a TIMESTAMP WITH TIME ZONE. -/
def decodeOracleTimestamp (data : Bytes) : Except Error OracleTimestamp :=
  if data.length < 7 then
    .error (.dataConversionError
      ("Oracle TIMESTAMP requires at least 7 bytes, got " ++ toString data.length))
  else do
    let date ← decodeOracleDate data
    let fsecond :=
      if data.length ≥ 11 then UInt32.ofNat (BigEndian.eval ((data.drop 7).take 4)) / 1000 else 0
    let zoneHour := data.getD 11 0
    let zoneMinute := data.getD 12 0
    if data.length ≥ 13 ∧ zoneHour ≠ 0 ∧ zoneMinute ≠ 0 then
      if zoneHour &&& 0x80 ≠ 0 then
        throw (.dataConversionError "Named timezone regions are not supported")
      else
        return ⟨date, fsecond, zoneHour.toInt8 - 20, zoneMinute.toInt8 - 60⟩
    else
      return ⟨date, fsecond, 0, 0⟩

/-- `decode_oracle_timestamp_utc`: the time zone bytes are not looked at. -/
def decodeOracleTimestampUtc (data : Bytes) : Except Error OracleTimestamp := do
  let ts ← decodeOracleTimestamp data
  return { ts with tzHourOffset := 0, tzMinuteOffset := 0 }

/-! ## Which values are read back -/

/-- A byte counted from one is read back unless it is the largest one. -/
lemma predSaturating_add_one (b : UInt8) : predSaturating (b + 1) = b ↔ b ≠ 255 := by
  have hlt := b.toNat_lt
  by_cases h : b = 255
  · rw [h]
    decide
  · refine iff_of_true ?_ h
    have hne : b.toNat ≠ 255 := fun e => h (UInt8.toNat_inj.mp e)
    have hsum : (b + 1).toNat = b.toNat + 1 := by
      rw [UInt8.toNat_add, show (1 : UInt8).toNat = 1 from rfl]
      omega
    have hzero : b + 1 ≠ 0 := by
      intro e
      rw [e] at hsum
      cases hsum
    rw [predSaturating, if_neg hzero, UInt8.add_sub_cancel]

/-- A number written in a byte with an excess of 100. -/
lemma toNat_ofInt_add (x : ℤ) : ((UInt8.ofInt x + 100).toNat : ℤ) = (x + 100) % 256 := by
  have h : (UInt8.ofInt x).toNat = (x % 256).toNat := by
    simp only [UInt8.ofInt, UInt8.toNat_ofNat']
    omega
  rw [UInt8.toNat_add, h, show (100 : UInt8).toNat = 100 from rfl]
  omega

/-- The parts of the date fit their bytes: the century, and the hour, minute and second counted
from one. -/
def OracleDate.Fits (d : OracleDate) : Prop :=
  (-100 ≤ d.year.tdiv 100 ∧ d.year.tdiv 100 ≤ 155) ∧
    d.hour ≠ 255 ∧ d.minute ≠ 255 ∧ d.second ≠ 255

/-- A date is read back exactly when its parts fit. -/
lemma decodeOracleDate_toOracleBytes_iff (d : OracleDate) (rest : Bytes) :
    decodeOracleDate (d.toOracleBytes ++ rest) = .ok d ↔ d.Fits := by
  obtain ⟨year, month, day, hour, minute, second⟩ := d
  have hmod := Int.tmod_lt_of_pos year (show (0 : ℤ) < 100 by omega)
  have hmod' := Int.lt_tmod_of_pos year (show (0 : ℤ) < 100 by omega)
  have hdiv := Int.mul_tdiv_add_tmod year 100
  have hyear : (((UInt8.ofInt (year.tdiv 100) + 100).toNat : ℤ) - 100) * 100 +
      (((UInt8.ofInt (year.tmod 100) + 100).toNat : ℤ) - 100) = year ↔
        -100 ≤ year.tdiv 100 ∧ year.tdiv 100 ≤ 155 := by
    rw [toNat_ofInt_add, toNat_ofInt_add]
    omega
  simp only [OracleDate.toOracleBytes, List.cons_append, decodeOracleDate, Except.ok.injEq,
    OracleDate.mk.injEq, predSaturating_add_one, hyear, OracleDate.Fits]
  tauto

/-- The parts of the timestamp fit their bytes, and its microseconds are fewer than overflow the
nanoseconds that are written. -/
def OracleTimestamp.Fits (ts : OracleTimestamp) : Prop :=
  ts.toOracleDate.Fits ∧ ts.microsecond.toNat * 1000 < 2 ^ 32

/-- A timestamp without a time zone is read back exactly when its parts fit. -/
lemma decodeOracleTimestamp_toOracleBytes_iff (ts : OracleTimestamp)
    (hzone : ts.tzHourOffset = 0 ∧ ts.tzMinuteOffset = 0) :
    decodeOracleTimestamp ts.toOracleBytes = .ok ts ↔ ts.Fits := by
  obtain ⟨date, microsecond, zoneHour, zoneMinute⟩ := ts
  obtain ⟨rfl, rfl⟩ := hzone
  have hdate : date.toOracleBytes.length = 7 := rfl
  have hlt := microsecond.toNat_lt
  have hlen : (OracleTimestamp.toOracleBytes ⟨date, microsecond, 0, 0⟩).length = 11 := by
    simp [OracleTimestamp.toOracleBytes, hdate]
  have hnanos : ((OracleTimestamp.toOracleBytes ⟨date, microsecond, 0, 0⟩).drop 7).take 4 =
      BigEndian.digits 4 (microsecond * 1000).toNat := by
    rw [OracleTimestamp.toOracleBytes, List.drop_left' hdate, List.take_of_length_le (by simp)]
  have hfsecond : UInt32.ofNat (BigEndian.eval (BigEndian.digits 4 (microsecond * 1000).toNat)) /
      1000 = microsecond ↔ microsecond.toNat * 1000 < 2 ^ 32 := by
    rw [BigEndian.eval_digits _ _ (microsecond * 1000).toNat_lt, UInt32.ofNat_toNat,
      ← UInt32.toNat_inj, UInt32.toNat_div, UInt32.toNat_mul, show (1000 : UInt32).toNat = 1000
      from rfl]
    omega
  unfold decodeOracleTimestamp
  rw [if_neg (by omega)]
  cases hd : decodeOracleDate (OracleTimestamp.toOracleBytes ⟨date, microsecond, 0, 0⟩) with
  | error e =>
    refine iff_of_false (by simp [bind, Except.bind]) ?_
    rintro ⟨hfits, -⟩
    rw [OracleTimestamp.toOracleBytes,
      (decodeOracleDate_toOracleBytes_iff date _).mpr hfits] at hd
    cases hd
  | ok date' =>
    have hsame : date' = date ↔ date.Fits := by
      rw [← decodeOracleDate_toOracleBytes_iff date (BigEndian.digits 4 (microsecond * 1000).toNat)]
      change _ ↔ decodeOracleDate (OracleTimestamp.toOracleBytes ⟨date, microsecond, 0, 0⟩) = _
      rw [hd, Except.ok.injEq]
    simp only [hlen, hnanos, bind, Except.bind, pure, Except.pure, show ¬ 11 ≥ 13 by omega,
      false_and, if_false, ge_iff_le, le_refl, if_true, Except.ok.injEq, OracleTimestamp.mk.injEq,
      and_true, hfsecond, hsame, OracleTimestamp.Fits]

end OracleRs
