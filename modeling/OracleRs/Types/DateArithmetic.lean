import OracleRs.Lib.Overflow
import OracleRs.Types.Binary
import OracleRs.Types.Date

set_option relaxedAutoImplicit false
set_option autoImplicit false

/-!
# The arithmetic of dates and timestamps

The encoders and decoders of `types/date.rs` with their sums and differences, which overflow in a build
with checks and wrap around in one without. The encoders narrow century and year to a byte before they
add the excess of 100, so that a negative one overflows; what is left after the wrap is right. The decoder
of timestamps looks at the sign bit of the zone's hours, but not at that of its minutes.

## Main definitions

* `OracleRs.OracleDate.toOracleBytesIn`, `OracleRs.encodeOracleDate`,
  `OracleRs.OracleTimestamp.toOracleBytesIn`, `OracleRs.encodeOracleTimestamp` — the encoders.
* `OracleRs.decodeOracleDateIn`, `OracleRs.decodeOracleTimestampIn`,
  `OracleRs.decodeOracleTimestampUtcIn` — the decoders.
* `OracleRs.OracleTimestamp.Valid` — Oracle's years, with valid times and zones.
* `OracleRs.OracleTimestamp.RoundTripsIn` — no encoder overflows, and every encoding is read back.

## Main results

* `OracleRs.OracleTimestamp.roundTripsIn_iff` — when this is so.
* `OracleRs.decodeOracleTimestampIn_returns_iff` — when the decoders do not overflow.
-/

namespace OracleRs

open Overflow

/-! ## Encoding -/

/-- `OracleDate::to_oracle_bytes`. -/
def OracleDate.toOracleBytesIn (build : Build) (d : OracleDate) : Except Error Bytes := do
  let century ← build.addU8 .arithmeticOverflow (UInt8.ofInt (d.year.tdiv 100)) 100
  let yearInCentury ← build.addU8 .arithmeticOverflow (UInt8.ofInt (d.year.tmod 100)) 100
  let hour ← build.addU8 .arithmeticOverflow d.hour 1
  let minute ← build.addU8 .arithmeticOverflow d.minute 1
  let second ← build.addU8 .arithmeticOverflow d.second 1
  return [century, yearInCentury, d.month, d.day, hour, minute, second]

/-- `encode_oracle_date`. -/
def encodeOracleDate (build : Build) (date : OracleDate) : Except Error Bytes := do
  let century ← build.addU8 .arithmeticOverflow (UInt8.ofInt (date.year.tdiv 100)) 100
  let yearInCentury ← build.addU8 .arithmeticOverflow (UInt8.ofInt (date.year.tmod 100)) 100
  let hour ← build.addU8 .arithmeticOverflow date.hour 1
  let minute ← build.addU8 .arithmeticOverflow date.minute 1
  let second ← build.addU8 .arithmeticOverflow date.second 1
  return [century, yearInCentury, date.month, date.day, hour, minute, second]

/-- `(ts.microsecond * 1000).to_be_bytes()`. -/
def OracleTimestamp.nanosIn (build : Build) (ts : OracleTimestamp) : Except Error Bytes := do
  let nanos ← build.mulU32 .arithmeticOverflow ts.microsecond 1000
  return BigEndian.digits 4 nanos.toNat

/-- The two bytes of a zone. -/
def OracleTimestamp.zoneIn (build : Build) (ts : OracleTimestamp) : Except Error Bytes := do
  let hour ← build.addI8 .arithmeticOverflow ts.tzHourOffset 20
  let minute ← build.addI8 .arithmeticOverflow ts.tzMinuteOffset 60
  return [hour.toUInt8, minute.toUInt8]

/-- `OracleTimestamp::to_oracle_bytes`. -/
def OracleTimestamp.toOracleBytesIn (build : Build) (ts : OracleTimestamp) : Except Error Bytes := do
  let dateBytes ← ts.toOracleDate.toOracleBytesIn build
  let nanoBytes ← ts.nanosIn build
  return dateBytes ++ nanoBytes

/-- `encode_oracle_timestamp`: seven, eleven or thirteen bytes. -/
def encodeOracleTimestamp (build : Build) (ts : OracleTimestamp) (includeTz : Bool) :
    Except Error Bytes := do
  let date ← encodeOracleDate build ts.toOracleDate
  let fraction ← (if ts.microsecond > 0 ∨ includeTz then ts.nanosIn build else pure [])
  let zone ← (if includeTz then ts.zoneIn build else pure [])
  return date ++ fraction ++ zone

/-! ## Decoding -/

/-- `decode_oracle_date`. -/
def decodeOracleDateIn (build : Build) (data : Bytes) : Except Error OracleDate :=
  match data with
  | century :: year :: month :: day :: hour :: minute :: second :: _ => do
    let century ← build.i32 .arithmeticOverflow (century.toNat - 100)
    let yearInCentury ← build.i32 .arithmeticOverflow (year.toNat - 100)
    let years ← build.i32 .arithmeticOverflow (century * 100)
    let year ← build.i32 .arithmeticOverflow (years + yearInCentury)
    return {
      year := year
      month := month
      day := day
      hour := predSaturating hour
      minute := predSaturating minute
      second := predSaturating second }
  | _ => .error (.dataConversionError
      ("Oracle DATE requires 7 bytes, got " ++ toString data.length))

/-- `decode_oracle_timestamp`. -/
def decodeOracleTimestampIn (build : Build) (data : Bytes) : Except Error OracleTimestamp :=
  if data.length < 7 then
    .error (.dataConversionError
      ("Oracle TIMESTAMP requires at least 7 bytes, got " ++ toString data.length))
  else do
    let date ← decodeOracleDateIn build data
    let fsecond :=
      if data.length ≥ 11 then UInt32.ofNat (BigEndian.eval ((data.drop 7).take 4)) / 1000 else 0
    let zoneHour := data.getD 11 0
    let zoneMinute := data.getD 12 0
    if data.length ≥ 13 ∧ zoneHour ≠ 0 ∧ zoneMinute ≠ 0 then
      if zoneHour &&& 0x80 ≠ 0 then
        throw (.dataConversionError "Named timezone regions are not supported")
      else
        let tzHour ← build.subI8 .arithmeticOverflow zoneHour.toInt8 20
        let tzMinute ← build.subI8 .arithmeticOverflow zoneMinute.toInt8 60
        return ⟨date, fsecond, tzHour, tzMinute⟩
    else
      return ⟨date, fsecond, 0, 0⟩

/-- `decode_oracle_timestamp_utc`. -/
def decodeOracleTimestampUtcIn (build : Build) (data : Bytes) : Except Error OracleTimestamp := do
  let ts ← decodeOracleTimestampIn build data
  return { ts with tzHourOffset := 0, tzMinuteOffset := 0 }

/-! ## Decoding does not overflow, but for the minutes of a zone -/

/-- The difference of a date's parts and their excess does not overflow. -/
lemma decodeOracleDateIn_eq (build : Build) (data : Bytes) :
    decodeOracleDateIn build data = decodeOracleDate data := by
  rcases data with _ | ⟨century, _ | ⟨year, _ | ⟨month, _ | ⟨day, _ | ⟨hour, _ | ⟨minute, _ |
    ⟨second, rest⟩⟩⟩⟩⟩⟩⟩
  case cons.cons.cons.cons.cons.cons.cons =>
    have hcentury := century.toNat_lt
    have hyear := year.toNat_lt
    show (build.i32 _ ((century.toNat : ℤ) - 100) >>= _) = _
    rw [Build.i32_eq_ok (by omega) (by omega)]
    show (build.i32 _ ((year.toNat : ℤ) - 100) >>= _) = _
    rw [Build.i32_eq_ok (by omega) (by omega)]
    show (build.i32 _ (((century.toNat : ℤ) - 100) * 100) >>= _) = _
    rw [Build.i32_eq_ok (by omega) (by omega)]
    show (build.i32 _ (((century.toNat : ℤ) - 100) * 100 + ((year.toNat : ℤ) - 100)) >>= _) = _
    rw [Build.i32_eq_ok (by omega) (by omega)]
    rfl
  all_goals rfl

/-- The zone of a timestamp has a minute byte that is too small for the excess of 60. -/
structure ZoneUnderflows (data : Bytes) : Prop where
  /-- the bytes of the zone are there -/
  zone : 13 ≤ data.length
  /-- there is a zone, and it is no named region -/
  hour : 1 ≤ data.getD 11 0 ∧ data.getD 11 0 < 128
  /-- the minutes are below -68 as a signed byte -/
  minute : 128 ≤ data.getD 12 0 ∧ data.getD 12 0 < 188

/-- A byte as a signed one. -/
lemma toInt_toInt8 (b : UInt8) :
    b.toInt8.toInt = if b.toNat < 128 then (b.toNat : ℤ) else b.toNat - 256 := by
  have hlt := b.toNat_lt
  have h : b.toInt8.toInt = b.toBitVec.toInt := rfl
  rw [h, BitVec.toInt_eq_toNat_cond, UInt8.toNat_toBitVec]
  split_ifs <;> omega

/-- There is a zone and it is no named region, that is, the hour byte is below 128. -/
lemma zoneHour_iff (b : UInt8) : b ≠ 0 ∧ b &&& 0x80 = 0 ↔ 1 ≤ b ∧ b < 128 := by
  revert b
  exact forall_byte (by decide +kernel)

/-- The hours of a zone do not underflow. -/
lemma subI8_zoneHour (build : Build) {b : UInt8} (h : b < 128) :
    build.subI8 Error.arithmeticOverflow b.toInt8 20 = .ok (b.toInt8 - 20) := by
  have hlt : b.toNat < 128 := UInt8.lt_iff_toNat_lt.mp h
  have htoInt := toInt_toInt8 b
  rw [if_pos hlt] at htoInt
  have htwenty : (20 : Int8).toInt = 20 := rfl
  exact Build.result_of (by omega)

/-- The minutes of a zone underflow from the bytes 128 to 187. -/
lemma minute_fits_iff (b : UInt8) :
    -2 ^ 7 ≤ b.toInt8.toInt - (60 : Int8).toInt ∧ b.toInt8.toInt - (60 : Int8).toInt < 2 ^ 7 ↔
      ¬(128 ≤ b ∧ b < 188) := by
  have hlt := b.toNat_lt
  have hsixty : (60 : Int8).toInt = 60 := rfl
  have hlow : 128 ≤ b ↔ 128 ≤ b.toNat := UInt8.le_iff_toNat_le
  have hhigh : b < 188 ↔ b.toNat < 188 := UInt8.lt_iff_toNat_lt
  rw [hlow, hhigh, toInt_toInt8, hsixty]
  split_ifs <;> omega

/-- The decoder of timestamps without its arithmetic. -/
lemma decodeOracleTimestampIn_eq {build : Build} {data : Bytes}
    (h : build = .checked → ¬ZoneUnderflows data) :
    decodeOracleTimestampIn build data = decodeOracleTimestamp data := by
  rw [decodeOracleTimestampIn, decodeOracleTimestamp, decodeOracleDateIn_eq]
  by_cases hshort : data.length < 7
  · rw [if_pos hshort, if_pos hshort]
  rw [if_neg hshort, if_neg hshort]
  cases decodeOracleDate data with
  | error e => rfl
  | ok date =>
    show (if data.length ≥ 13 ∧ _ then _ else _) = (if data.length ≥ 13 ∧ _ then _ else _)
    by_cases hzone : data.length ≥ 13 ∧ data.getD 11 0 ≠ 0 ∧ data.getD 12 0 ≠ 0
    · rw [if_pos hzone, if_pos hzone]
      by_cases hregion : data.getD 11 0 &&& 0x80 ≠ 0
      · rw [if_pos hregion, if_pos hregion]
      have hhour := (zoneHour_iff _).mp ⟨hzone.2.1, not_not.mp hregion⟩
      have hminute : build.subI8 Error.arithmeticOverflow (data.getD 12 0).toInt8 60 =
          .ok ((data.getD 12 0).toInt8 - 60) := by
        cases build with
        | checked =>
          refine Build.result_of ((minute_fits_iff _).mpr fun hminute => ?_)
          exact h rfl ⟨hzone.1, hhour, hminute⟩
        | wrapping => exact Build.result_wrapping
      rw [if_neg hregion, if_neg hregion, subI8_zoneHour build hhour.2, hminute]
      rfl
    · rw [if_neg hzone, if_neg hzone]

/-- Seven bytes are a date. -/
lemma exists_decodeOracleDate {data : Bytes} (h : 7 ≤ data.length) :
    ∃ date, decodeOracleDate data = .ok date := by
  rcases data with _ | ⟨a, _ | ⟨b, _ | ⟨c, _ | ⟨d, _ | ⟨e, _ | ⟨f, _ | ⟨g, rest⟩⟩⟩⟩⟩⟩⟩
  case cons.cons.cons.cons.cons.cons.cons => exact ⟨_, rfl⟩
  all_goals simp at h

/-- Without its arithmetic, the decoder of timestamps returns its errors. -/
lemma isPanic_of_decodeOracleTimestamp {data : Bytes} {e : Error}
    (h : decodeOracleTimestamp data = .error e) : e.isPanic = false := by
  rw [decodeOracleTimestamp] at h
  by_cases hshort : data.length < 7
  · rw [if_pos hshort] at h
    cases h
    rfl
  obtain ⟨date, hdate⟩ := exists_decodeOracleDate (not_lt.mp hshort)
  rw [if_neg hshort, hdate] at h
  change (if data.length ≥ 13 ∧ _ then if data.getD 11 0 &&& 0x80 ≠ 0 then _ else _ else _) = _ at h
  by_cases hzone : data.length ≥ 13 ∧ data.getD 11 0 ≠ 0 ∧ data.getD 12 0 ≠ 0
  · rw [if_pos hzone] at h
    by_cases hregion : data.getD 11 0 &&& 0x80 ≠ 0
    · rw [if_pos hregion] at h
      cases h
      rfl
    · rw [if_neg hregion] at h
      cases h
  · rw [if_neg hzone] at h
    cases h

/-- The minutes of a zone are too small. -/
lemma decodeOracleTimestampIn_of_underflow {data : Bytes} (h : ZoneUnderflows data) :
    decodeOracleTimestampIn .checked data = .error .arithmeticOverflow := by
  obtain ⟨hzone, hhour, hminute⟩ := h
  have hne : data.getD 12 0 ≠ 0 := by
    intro hzero
    rw [hzero] at hminute
    exact absurd hminute.1 (by decide)
  obtain ⟨hne', hregion⟩ := (zoneHour_iff _).mpr hhour
  have hlen : 7 ≤ data.length := by omega
  obtain ⟨date, hdate⟩ := exists_decodeOracleDate hlen
  rw [decodeOracleTimestampIn, if_neg (by omega), decodeOracleDateIn_eq, hdate]
  show (if _ then if _ then _ else _ else _) = _
  rw [if_pos ⟨hzone, hne', hne⟩, if_neg (not_not.mpr hregion), subI8_zoneHour .checked hhour.2]
  show (Build.checked.subI8 _ _ _ >>= _) = _
  rw [Build.subI8, Build.result_of_not fun hfits => (minute_fits_iff _).mp hfits hminute]
  rfl

/-- **No arithmetic in the decoders of timestamps overflows if and only if the zone does not underflow.** -/
theorem decodeOracleTimestampIn_returns_iff (data : Bytes) :
    ((∀ e, decodeOracleTimestampIn .checked data = .error e → e.isPanic = false) ∧
      ∀ e, decodeOracleTimestampUtcIn .checked data = .error e → e.isPanic = false) ↔
      ¬ZoneUnderflows data := by
  constructor
  · rintro ⟨h, -⟩ hzone
    cases h _ (decodeOracleTimestampIn_of_underflow hzone)
  · intro hzone
    have hret : ∀ e, decodeOracleTimestampIn .checked data = .error e → e.isPanic = false := by
      intro e he
      rw [decodeOracleTimestampIn_eq fun _ => hzone] at he
      exact isPanic_of_decodeOracleTimestamp he
    refine ⟨hret, fun e he => ?_⟩
    rw [decodeOracleTimestampUtcIn] at he
    cases hdecode : decodeOracleTimestampIn .checked data with
    | error e' =>
      rw [hdecode] at he
      cases he
      exact hret e hdecode
    | ok ts =>
      rw [hdecode] at he
      cases he

/-- A timestamp in a zone whose minute byte has the sign bit. -/
def underflowingZone : Bytes := [120, 124, 3, 15, 15, 31, 46, 0, 0, 0, 0, 20, 128]

/-- The minutes of this zone overflow. -/
theorem decodeOracleTimestampIn_underflowingZone :
    ¬∀ data : Bytes, (∀ e, decodeOracleTimestampIn .checked data = .error e → e.isPanic = false) ∧
      ∀ e, decodeOracleTimestampUtcIn .checked data = .error e → e.isPanic = false := by
  intro h
  have hpanic : decodeOracleTimestampIn .checked underflowingZone = .error .arithmeticOverflow := rfl
  cases (h _).1 _ hpanic

/-! ## Valid dates and timestamps -/

/-- A date of Oracle's, with a valid time. -/
structure OracleDate.Valid (d : OracleDate) : Prop where
  /-- the year -/
  year : -4712 ≤ d.year ∧ d.year ≤ 9999
  /-- the month -/
  month : 1 ≤ d.month ∧ d.month ≤ 12
  /-- the day -/
  day : 1 ≤ d.day ∧ d.day ≤ 31
  /-- the hour -/
  hour : d.hour ≤ 23
  /-- the minute -/
  minute : d.minute ≤ 59
  /-- the second -/
  second : d.second ≤ 59

/-- A timestamp of Oracle's, with a valid time and a valid zone. -/
structure OracleTimestamp.Valid (ts : OracleTimestamp) : Prop where
  /-- the date and the time -/
  date : ts.toOracleDate.Valid
  /-- the microseconds -/
  microsecond : ts.microsecond ≤ 999999
  /-- the hours of the zone -/
  tzHour : -12 ≤ ts.tzHourOffset ∧ ts.tzHourOffset ≤ 14
  /-- the minutes of the zone -/
  tzMinute : -59 ≤ ts.tzMinuteOffset ∧ ts.tzMinuteOffset ≤ 59

namespace OracleDate.Valid

variable {d : OracleDate} {build : Build}

/-- Century and year in the century have the sign of the year. -/
lemma parts (h : d.Valid) :
    (-100 ≤ d.year.tdiv 100 ∧ d.year.tdiv 100 ≤ 100) ∧ (-100 ≤ d.year.tmod 100 ∧ d.year.tmod 100 ≤ 100) ∧
      (0 ≤ d.year ↔ 0 ≤ d.year.tdiv 100 ∧ 0 ≤ d.year.tmod 100) := by
  have hrange := h.year
  have hlow := Int.lt_tmod_of_pos d.year (show (0 : ℤ) < 100 by omega)
  have hhigh := Int.tmod_lt_of_pos d.year (show (0 : ℤ) < 100 by omega)
  have hsum := Int.mul_tdiv_add_tmod d.year 100
  refine ⟨by omega, by omega, fun hpos => ?_, fun hpos => by omega⟩
  have hnonneg := Int.tmod_nonneg 100 hpos
  omega

lemma fits (h : d.Valid) : d.Fits := by
  obtain ⟨-, -, -, hhour, hminute, hsecond⟩ := id h
  have hne : ∀ {b c : UInt8}, b ≤ c → c < 255 → b ≠ 255 := by
    rintro b c hle hlt rfl
    exact absurd hlt (UInt8.not_lt.mpr hle)
  have hcentury := h.parts.1
  exact ⟨by omega, hne hhour (by decide), hne hminute (by decide), hne hsecond (by decide)⟩

/-- The excess of 100 overflows a byte if and only if it is added to a negative number. -/
lemma excess_fits_iff {x : ℤ} (hlow : -100 ≤ x) (hhigh : x ≤ 100) :
    (UInt8.ofInt x).toNat + (100 : UInt8).toNat < 2 ^ 8 ↔ 0 ≤ x := by
  have hnat : (UInt8.ofInt x).toNat = (x % 256).toNat := by
    simp only [UInt8.ofInt, UInt8.toNat_ofNat']
    omega
  rw [hnat, show (100 : UInt8).toNat = 100 from rfl]
  omega

/-- A part of the time is counted from one. -/
lemma addU8_one {b : UInt8} (h : b ≠ 255) : build.addU8 Error.arithmeticOverflow b 1 = .ok (b + 1) := by
  have hlt := b.toNat_lt
  have hne : b.toNat ≠ 255 := fun e => h (UInt8.toNat_inj.mp e)
  have hone : (1 : UInt8).toNat = 1 := rfl
  exact Build.result_of (by omega)

/-- In a build with checks, only years that are not negative are encoded. -/
lemma toOracleBytesIn_eq (h : d.Valid) (hyear : build = .checked → 0 ≤ d.year) :
    d.toOracleBytesIn build = .ok d.toOracleBytes := by
  obtain ⟨-, hhour, hminute, hsecond⟩ := h.fits
  have hexcess : ∀ x : ℤ, -100 ≤ x → x ≤ 100 → (0 ≤ d.year → 0 ≤ x) →
      build.addU8 Error.arithmeticOverflow (UInt8.ofInt x) 100 = .ok (UInt8.ofInt x + 100) := by
    intro x hlow hhigh hpos
    cases build with
    | checked => exact Build.result_of ((excess_fits_iff hlow hhigh).mpr (hpos (hyear rfl)))
    | wrapping => exact Build.result_wrapping
  obtain ⟨hcentury, hyearIn, hsign⟩ := h.parts
  rw [OracleDate.toOracleBytesIn, hexcess _ hcentury.1 hcentury.2 fun hpos => (hsign.mp hpos).1,
    hexcess _ hyearIn.1 hyearIn.2 fun hpos => (hsign.mp hpos).2, addU8_one hhour, addU8_one hminute,
    addU8_one hsecond]
  rfl

/-- A negative year overflows: its century does, or its year in the century. -/
lemma toOracleBytesIn_of_neg (h : d.Valid) (hyear : d.year < 0) :
    d.toOracleBytesIn .checked = .error .arithmeticOverflow := by
  obtain ⟨hcentury, hyearIn, hsign⟩ := h.parts
  have hexcess : ∀ x : ℤ, -100 ≤ x → x ≤ 100 → x < 0 →
      Build.checked.addU8 Error.arithmeticOverflow (UInt8.ofInt x) 100 = .error .arithmeticOverflow := by
    intro x hlow hhigh hneg
    exact Build.result_of_not fun hfits => not_le.mpr hneg ((excess_fits_iff hlow hhigh).mp hfits)
  rw [OracleDate.toOracleBytesIn]
  by_cases hneg : d.year.tdiv 100 < 0
  · rw [hexcess _ hcentury.1 hcentury.2 hneg]
    rfl
  · have hok : Build.checked.addU8 Error.arithmeticOverflow (UInt8.ofInt (d.year.tdiv 100)) 100 =
        .ok (UInt8.ofInt (d.year.tdiv 100) + 100) :=
      Build.result_of ((excess_fits_iff hcentury.1 hcentury.2).mpr (not_lt.mp hneg))
    have hneg' : d.year.tmod 100 < 0 := by
      by_contra hpos
      exact not_le.mpr hyear (hsign.mpr ⟨not_lt.mp hneg, not_lt.mp hpos⟩)
    rw [hok]
    show (Build.checked.addU8 _ _ _ >>= _) = _
    rw [hexcess _ hyearIn.1 hyearIn.2 hneg']
    rfl

end OracleDate.Valid

/-! ## What is read back -/

/-- A date and what stands behind it are decoded. -/
lemma decodeOracleTimestamp_append {d : OracleDate} (h : d.Fits) (rest : Bytes) :
    decodeOracleTimestamp (d.toOracleBytes ++ rest) =
      let fsecond := if rest.length ≥ 4 then UInt32.ofNat (BigEndian.eval (rest.take 4)) / 1000 else 0
      if rest.length ≥ 6 ∧ rest.getD 4 0 ≠ 0 ∧ rest.getD 5 0 ≠ 0 then
        if rest.getD 4 0 &&& 0x80 ≠ 0 then
          .error (.dataConversionError "Named timezone regions are not supported")
        else .ok ⟨d, fsecond, (rest.getD 4 0).toInt8 - 20, (rest.getD 5 0).toInt8 - 60⟩
      else .ok ⟨d, fsecond, 0, 0⟩ := by
  have hlen : (d.toOracleBytes ++ rest).length = rest.length + 7 := rfl
  have hfraction : (d.toOracleBytes ++ rest).length ≥ 11 ↔ rest.length ≥ 4 := by omega
  have hzone : (d.toOracleBytes ++ rest).length ≥ 13 ↔ rest.length ≥ 6 := by omega
  have hhour : (d.toOracleBytes ++ rest).getD 11 0 = rest.getD 4 0 := rfl
  have hminute : (d.toOracleBytes ++ rest).getD 12 0 = rest.getD 5 0 := rfl
  have hdrop : (d.toOracleBytes ++ rest).drop 7 = rest := rfl
  rw [decodeOracleTimestamp, if_neg (by omega), (decodeOracleDate_toOracleBytes_iff d rest).mpr h]
  simp only [hfraction, hzone, hhour, hminute, hdrop]
  rfl

namespace OracleTimestamp

/-- The timestamp without its zone. -/
def withoutZone (ts : OracleTimestamp) : OracleTimestamp :=
  { ts with tzHourOffset := 0, tzMinuteOffset := 0 }

/-- No encoder overflows in the build, the two encoders of dates agree, and every encoding is read back, up
to a zone that has not been written. -/
structure RoundTripsIn (build : Build) (ts : OracleTimestamp) : Prop where
  /-- the encoders of dates -/
  date : ∃ bytes, encodeOracleDate build ts.toOracleDate = .ok bytes ∧
    ts.toOracleDate.toOracleBytesIn build = .ok bytes ∧
    decodeOracleDateIn build bytes = .ok ts.toOracleDate
  /-- the encoder of timestamps without a zone -/
  timestamp : ∃ bytes, ts.toOracleBytesIn build = .ok bytes ∧
    decodeOracleTimestampIn build bytes = .ok ts.withoutZone
  /-- the encoder of timestamps with or without a zone -/
  encoded : ∀ includeTz, ∃ bytes, encodeOracleTimestamp build ts includeTz = .ok bytes ∧
    decodeOracleTimestampIn build bytes = .ok (if includeTz then ts else ts.withoutZone)

variable {ts : OracleTimestamp} {build : Build}

/-- The bytes of the fraction of a second. -/
def nanoBytes (ts : OracleTimestamp) : Bytes := BigEndian.digits 4 (ts.microsecond * 1000).toNat

/-- The microseconds do not overflow as nanoseconds. -/
lemma Valid.nanosIn_eq (h : ts.Valid) : ts.nanosIn build = .ok ts.nanoBytes := by
  have hle : ts.microsecond.toNat ≤ 999999 := UInt32.le_iff_toNat_le.mp h.microsecond
  have hnanos : build.mulU32 Error.arithmeticOverflow ts.microsecond 1000 =
      .ok (ts.microsecond * 1000) := by
    refine Build.result_of ?_
    rw [show (1000 : UInt32).toNat = 1000 from rfl]
    omega
  rw [nanosIn, hnanos]
  rfl

/-- The microseconds are read back. -/
lemma Valid.eval_nanoBytes (h : ts.Valid) :
    UInt32.ofNat (BigEndian.eval ts.nanoBytes) / 1000 = ts.microsecond := by
  have hle : ts.microsecond.toNat ≤ 999999 := UInt32.le_iff_toNat_le.mp h.microsecond
  rw [nanoBytes, BigEndian.eval_digits _ _ (ts.microsecond * 1000).toNat_lt, UInt32.ofNat_toNat,
    ← UInt32.toNat_inj, UInt32.toNat_div, UInt32.toNat_mul, show (1000 : UInt32).toNat = 1000 from rfl]
  omega

/-- A zone's part is written with an excess, as a byte without the sign bit. -/
structure WrittenWith (excess part : Int8) : Prop where
  /-- the sum fits -/
  fits : -2 ^ 7 ≤ part.toInt + excess.toInt ∧ part.toInt + excess.toInt < 2 ^ 7
  /-- the byte is not zero -/
  pos : 1 ≤ (part + excess).toUInt8
  /-- the byte has no sign bit -/
  lt : (part + excess).toUInt8 < 128

/-- A statement about every signed byte. -/
lemma forall_i8 {p : Int8 → Prop} (h : ∀ n : Fin 256, p (UInt8.ofNat n).toInt8) (x : Int8) : p x := by
  have hx := forall_byte (p := fun b => p b.toInt8) h x.toUInt8
  rwa [Int8.toInt8_toUInt8] at hx

lemma Valid.hour (h : ts.Valid) : WrittenWith 20 ts.tzHourOffset := by
  have hall : ∀ x : Int8, -12 ≤ x ∧ x ≤ 14 →
      (-2 ^ 7 ≤ x.toInt + (20 : Int8).toInt ∧ x.toInt + (20 : Int8).toInt < 2 ^ 7) ∧
        1 ≤ (x + 20).toUInt8 ∧ (x + 20).toUInt8 < 128 := forall_i8 (by decide +kernel)
  obtain ⟨hfits, hpos, hlt⟩ := hall _ h.tzHour
  exact ⟨hfits, hpos, hlt⟩

lemma Valid.minute (h : ts.Valid) : WrittenWith 60 ts.tzMinuteOffset := by
  have hall : ∀ x : Int8, -59 ≤ x ∧ x ≤ 59 →
      (-2 ^ 7 ≤ x.toInt + (60 : Int8).toInt ∧ x.toInt + (60 : Int8).toInt < 2 ^ 7) ∧
        1 ≤ (x + 60).toUInt8 ∧ (x + 60).toUInt8 < 128 := forall_i8 (by decide +kernel)
  obtain ⟨hfits, hpos, hlt⟩ := hall _ h.tzMinute
  exact ⟨hfits, hpos, hlt⟩

/-- The bytes of a zone. -/
def zoneBytes (ts : OracleTimestamp) : Bytes :=
  [(ts.tzHourOffset + 20).toUInt8, (ts.tzMinuteOffset + 60).toUInt8]

/-- The parts of a zone do not overflow. -/
lemma Valid.zoneIn_eq (h : ts.Valid) : ts.zoneIn build = .ok ts.zoneBytes := by
  have hhour : build.addI8 Error.arithmeticOverflow ts.tzHourOffset 20 = .ok (ts.tzHourOffset + 20) :=
    Build.result_of h.hour.fits
  have hminute : build.addI8 Error.arithmeticOverflow ts.tzMinuteOffset 60 =
      .ok (ts.tzMinuteOffset + 60) := Build.result_of h.minute.fits
  rw [zoneIn, hhour, hminute]
  rfl

/-- A timestamp without a fraction in seven bytes. -/
lemma Valid.decode_date (h : ts.Valid) (hmicro : ts.microsecond = 0) :
    decodeOracleTimestampIn build ts.toOracleDate.toOracleBytes = .ok ts.withoutZone := by
  have happend := decodeOracleTimestamp_append h.date.fits []
  rw [List.append_nil] at happend
  rw [decodeOracleTimestampIn_eq, happend]
  · show Except.ok (OracleTimestamp.mk ts.toOracleDate 0 0 0) = _
    rw [← hmicro]
    rfl
  · intro _ hzone
    exact absurd hzone.zone (show ¬13 ≤ 7 by omega)

/-- A timestamp in eleven bytes. -/
lemma Valid.decode_fraction (h : ts.Valid) :
    decodeOracleTimestampIn build (ts.toOracleDate.toOracleBytes ++ ts.nanoBytes) =
      .ok ts.withoutZone := by
  have hlen : ts.nanoBytes.length = 4 := rfl
  rw [decodeOracleTimestampIn_eq, decodeOracleTimestamp_append h.date.fits]
  · have htake : ts.nanoBytes.take 4 = ts.nanoBytes := rfl
    rw [htake, h.eval_nanoBytes]
    rfl
  · intro _ hzone
    exact absurd hzone.zone (show ¬13 ≤ 11 by omega)

/-- A timestamp in thirteen bytes: those of a valid zone are not zero and have no sign bit, so that no
difference overflows. -/
lemma Valid.decode_zone (h : ts.Valid) :
    decodeOracleTimestampIn build (ts.toOracleDate.toOracleBytes ++ (ts.nanoBytes ++ ts.zoneBytes)) =
      .ok ts := by
  have hhour := (zoneHour_iff _).mpr ⟨h.hour.pos, h.hour.lt⟩
  have hminute := (zoneHour_iff _).mpr ⟨h.minute.pos, h.minute.lt⟩
  have htake : (ts.nanoBytes ++ ts.zoneBytes).take 4 = ts.nanoBytes := rfl
  have hfour : (ts.nanoBytes ++ ts.zoneBytes).getD 4 0 = (ts.tzHourOffset + 20).toUInt8 := rfl
  have hfive : (ts.nanoBytes ++ ts.zoneBytes).getD 5 0 = (ts.tzMinuteOffset + 60).toUInt8 := rfl
  have hlen : (ts.nanoBytes ++ ts.zoneBytes).length = 6 := rfl
  rw [decodeOracleTimestampIn_eq, decodeOracleTimestamp_append h.date.fits, hfour, hfive, htake,
    h.eval_nanoBytes, Int8.toInt8_toUInt8, Int8.toInt8_toUInt8, Int8.add_sub_cancel, Int8.add_sub_cancel]
  · show (if _ then if _ then _ else _ else _) = _
    rw [if_pos ⟨hlen.ge, hhour.1, hminute.1⟩, if_neg (not_not.mpr hhour.2)]
    rfl
  · intro _ hzone
    exact absurd h.minute.lt (UInt8.not_lt.mpr hzone.minute.1)

/-- In a build with checks, only years that are not negative are encoded. -/
lemma Valid.toOracleBytesIn_eq (h : ts.Valid) (hyear : build = .checked → 0 ≤ ts.year) :
    ts.toOracleBytesIn build = .ok (ts.toOracleDate.toOracleBytes ++ ts.nanoBytes) := by
  rw [OracleTimestamp.toOracleBytesIn, h.date.toOracleBytesIn_eq hyear, h.nanosIn_eq]
  rfl

lemma Valid.encodeOracleTimestamp_eq (h : ts.Valid) (hyear : build = .checked → 0 ≤ ts.year)
    (includeTz : Bool) :
    encodeOracleTimestamp build ts includeTz = .ok (ts.toOracleDate.toOracleBytes ++
      ((if ts.microsecond > 0 ∨ includeTz then ts.nanoBytes else []) ++
        if includeTz then ts.zoneBytes else [])) := by
  have hdate : encodeOracleDate build ts.toOracleDate = .ok ts.toOracleDate.toOracleBytes :=
    h.date.toOracleBytesIn_eq hyear
  have hfraction : (if ts.microsecond > 0 ∨ includeTz then ts.nanosIn build else pure []) =
      .ok (if ts.microsecond > 0 ∨ includeTz then ts.nanoBytes else []) := by
    rw [h.nanosIn_eq]
    split <;> rfl
  have hzone : (if includeTz then ts.zoneIn build else pure []) =
      .ok (if includeTz then ts.zoneBytes else []) := by
    rw [h.zoneIn_eq]
    split <;> rfl
  rw [encodeOracleTimestamp, hdate, hfraction, hzone, ← List.append_assoc]
  rfl

/-- What is encoded is read back, unless the build looks for overflows and the year is negative. -/
lemma Valid.roundTripsIn (h : ts.Valid) (hyear : build = .checked → 0 ≤ ts.year) :
    ts.RoundTripsIn build := by
  refine ⟨⟨_, h.date.toOracleBytesIn_eq hyear, h.date.toOracleBytesIn_eq hyear, ?_⟩,
    ⟨_, h.toOracleBytesIn_eq hyear, h.decode_fraction⟩, fun includeTz => ?_⟩
  · have hback := (decodeOracleDate_toOracleBytes_iff ts.toOracleDate []).mpr h.date.fits
    rwa [List.append_nil, ← decodeOracleDateIn_eq build] at hback
  · refine ⟨_, h.encodeOracleTimestamp_eq hyear includeTz, ?_⟩
    cases includeTz with
    | true =>
      rw [if_pos (.inr rfl), if_pos rfl, if_pos rfl]
      exact h.decode_zone
    | false =>
      rw [if_neg Bool.false_ne_true, if_neg Bool.false_ne_true, List.append_nil]
      by_cases hmicro : ts.microsecond > 0
      · rw [if_pos (.inl hmicro)]
        exact h.decode_fraction
      · rw [if_neg (by simp [hmicro]), List.append_nil]
        refine h.decode_date (UInt32.le_antisymm (UInt32.not_lt.mp hmicro) ?_)
        exact UInt32.zero_le

/-- **In a build without checks every valid timestamp is read back from what the encoders write; in a build
with checks, the encoders do not overflow if and only if the year is not negative.** -/
theorem roundTripsIn_iff (ts : OracleTimestamp) (h : ts.Valid) :
    ts.RoundTripsIn .wrapping ∧ (ts.RoundTripsIn .checked ↔ 0 ≤ ts.year) := by
  have hwrapping : Build.wrapping = .checked → 0 ≤ ts.year := fun hbuild => by cases hbuild
  refine ⟨h.roundTripsIn hwrapping, fun hback => ?_, fun hyear => ?_⟩
  · by_contra hneg
    obtain ⟨bytes, -, hbytes, -⟩ := hback.date
    rw [h.date.toOracleBytesIn_of_neg (not_le.mp hneg)] at hbytes
    cases hbytes
  · exact h.roundTripsIn fun _ => hyear

/-- The last second of 2024 in the zone -05:30. -/
def lastSecond : OracleTimestamp := ⟨⟨2024, 12, 31, 23, 59, 59⟩, 999999, -5, -30⟩

/-- A second in the first year before our era. -/
def negativeYear : OracleTimestamp := ⟨⟨-1, 1, 1, 0, 0, 0⟩, 0, 0, 0⟩

/-- This second is read back in both builds. -/
theorem roundTripsIn_lastSecond :
    lastSecond.Valid ∧ lastSecond.RoundTripsIn .wrapping ∧ lastSecond.RoundTripsIn .checked := by
  have hvalid : lastSecond.Valid := by
    refine ⟨⟨?_, ?_, ?_, ?_, ?_, ?_⟩, ?_, ?_, ?_⟩ <;> decide
  obtain ⟨hwrapping, hchecked⟩ := roundTripsIn_iff lastSecond hvalid
  exact ⟨hvalid, hwrapping, hchecked.mpr (by decide)⟩

/-- The encoders overflow at a negative year. -/
theorem not_roundTripsIn_negativeYear :
    ¬∀ ts : OracleTimestamp, ts.Valid → ts.RoundTripsIn .checked := by
  intro hall
  have hvalid : negativeYear.Valid := by
    refine ⟨⟨?_, ?_, ?_, ?_, ?_, ?_⟩, ?_, ?_, ?_⟩ <;> decide
  obtain ⟨bytes, hbytes, -⟩ := (hall negativeYear hvalid).date
  have hpanic : encodeOracleDate .checked negativeYear.toOracleDate = .error .arithmeticOverflow := rfl
  rw [hpanic] at hbytes
  cases hbytes

end OracleTimestamp

end OracleRs
