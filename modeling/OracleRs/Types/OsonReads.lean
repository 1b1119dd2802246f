import OracleRs.Lib.Triple
import OracleRs.Types.Oson

set_option relaxedAutoImplicit false
set_option autoImplicit false

/-!
# What the OSON decoder reads

Pre- and postconditions of the readers from which the decoder of OSON is built: to which positions
they move, and with which errors they fail. The errors are returned, up to two cases: a date or a
timestamp with a zero byte in its time, and an offset that does not fit into 32 bits when that of
its container is added.

## Main definitions

* `OracleRs.Oson.Benign` — an error that the source returns.
* `OracleRs.Oson.Inside`, `OracleRs.Oson.Near` — positions in the data and not far from it.
* `OracleRs.Oson.HasZeroTime`, `OracleRs.Oson.OffsetOverflows` — the two cases.

## Main results

* `OracleRs.Oson.holds_decodeScalar`, `OracleRs.Oson.ends_decodeScalar` — scalars.
* `OracleRs.Oson.holds_readContainer` — what stands in front of the children of a container.
* `OracleRs.Oson.ends_readChild` — the place of a child.
-/

namespace OracleRs.Oson

open Cursor Triple

variable {floats : FloatText} {context : Context} {d : Bytes} {e : Error}

/-! ## Positions -/

/-- A position in the data or at its end. -/
def Inside (d : Bytes) (c : ReadBuffer) : Prop := c.data = d ∧ c.pos ≤ d.length

/-- A position to which a 32-bit offset and a table of 32-bit length may lead. -/
def Near (d : Bytes) (c : ReadBuffer) : Prop := c.data = d ∧ c.pos ≤ d.length + 2 ^ 35

/-- An error that the source returns: it does not panic, nor does it recurse without end. Byte strings
have fewer than `2 ^ 63` bytes. -/
def Benign (d : Bytes) (e : Error) : Prop := e ≠ .stuck ∧ (d.length < 2 ^ 63 → e.isPanic = false)

lemma Inside.near {c : ReadBuffer} (h : Inside d c) : Near d c :=
  ⟨h.1, h.2.trans (Nat.le_add_right _ _)⟩

lemma benign_protocolError (message : String) : Benign d (.protocolError message) :=
  ⟨by simp, fun _ => rfl⟩

/-- An overflow that does not happen for byte strings in memory. -/
lemma benign_arithmeticOverflow {n : ℕ} (h : ¬ n < 2 ^ 64) (hn : n ≤ d.length + 2 ^ 36) :
    Benign d .arithmeticOverflow :=
  ⟨by simp, fun hlen => absurd (by omega) h⟩

/-! ## Readers -/

lemma bind_liftExcept_ok {α β : Type} {x : Except Error α} {a : α} (h : x = .ok a)
    {f : α → ReadM β} {c : ReadBuffer} : (liftExcept x >>= f) c = f a c := by
  subst h
  rfl

lemma bind_liftExcept_error {α β : Type} {x : Except Error α} {e : Error} (h : x = .error e)
    {f : α → ReadM β} {c : ReadBuffer} : (liftExcept x >>= f) c = .error e c := by
  subst h
  rfl

lemma holds_readBytes {len : ℕ} (hlen : len ≤ 2 ^ 35) :
    Holds (Near d) (readBytes len) (fun b c => b.length = len ∧ Inside d c) (Benign d) := by
  rintro c ⟨rfl, hpos⟩
  rw [readBytes]
  split_ifs with hin hfits
  · refine And.intro ?_ ⟨rfl, hin⟩
    simp only [rest, List.length_take, List.length_drop]
    omega
  · exact benign_protocolError _
  · exact benign_arithmeticOverflow hfits (by omega)

lemma readU8_of_lt {p : ℕ} (h : p < d.length) :
    readU8 ⟨d, p⟩ = .ok (d.getD p 0) ⟨d, p + 1⟩ := if_pos h

lemma readU8_of_le {p : ℕ} (h : d.length ≤ p) :
    readU8 ⟨d, p⟩ = .error (.protocolError "Unexpected end of OSON data") ⟨d, p⟩ :=
  if_neg (not_lt.mpr h)

lemma holds_readU8 : Holds (Near d) readU8 (fun _ => Inside d) (Benign d) := by
  rintro c ⟨rfl, hpos⟩
  rw [readU8]
  split_ifs with hin
  · exact And.intro rfl hin
  · exact benign_protocolError _

lemma holds_readU16Be : Holds (Near d) readU16Be (fun _ => Inside d) (Benign d) :=
  (holds_readBytes (by norm_num)).bind fun _ => .pure fun _ h => h.2

lemma holds_readU32Be : Holds (Near d) readU32Be (fun _ => Inside d) (Benign d) :=
  (holds_readBytes (by norm_num)).bind fun _ => .pure fun _ h => h.2

lemma holds_readString {len : ℕ} (hlen : len ≤ 2 ^ 35) :
    Holds (Near d) (readString len) (fun _ => Inside d) (Benign d) :=
  (holds_readBytes hlen).bind fun _ => .pure fun _ h => h.2

/-- A known position. -/
def Here (d : Bytes) (p : ℕ) (c : ReadBuffer) : Prop := c.data = d ∧ c.pos = p

lemma Here.near {p : ℕ} {c : ReadBuffer} (h : Here d p c) (hp : p ≤ d.length + 2 ^ 35) :
    Near d c := ⟨h.1, h.2.trans_le hp⟩

lemma holds_seek {p : ℕ} {E : Error → Prop} :
    Holds (fun c => c.data = d) (seek p) (fun _ => Here d p) E := Holds.modify fun _ hc => ⟨hc, rfl⟩

lemma holds_position {p : ℕ} {E : Error → Prop} :
    Holds (Here d p) position (fun q c => q = p ∧ Here d p c) E :=
  Holds.bind (Q := fun c c' => c.pos = p ∧ Here d p c') (Holds.get fun _ hc => ⟨hc.2, hc⟩)
    fun _ => .pure fun _ h => h

lemma holds_position_inside {E : Error → Prop} :
    Holds (Inside d) position (fun q c => q ≤ d.length ∧ Inside d c) E :=
  Holds.bind (Q := fun c c' => c.pos ≤ d.length ∧ Inside d c') (Holds.get fun _ hc => ⟨hc.2, hc⟩)
    fun _ => .pure fun _ h => h

/-- A sum of positions and sizes fits into a `usize`. -/
lemma holds_addUsize {P : ReadBuffer → Prop} {a b : ℕ} (h : a + b ≤ d.length + 2 ^ 36) :
    Holds P (liftExcept (addUsize a b)) (fun n c => n = a + b ∧ P c) (Benign d) := by
  rw [addUsize]
  split_ifs with hfits
  · exact .pure fun _ hc => ⟨rfl, hc⟩
  · exact .throw (benign_arithmeticOverflow hfits h)

/-- A reader of a fixed number of bytes. -/
lemma holds_readBytes_here {len p : ℕ} (hp : p ≤ d.length + 2 ^ 35) (hlen : len ≤ 2 ^ 35) :
    Holds (Here d p) (readBytes len) (fun _ c => p + len ≤ d.length ∧ Here d (p + len) c)
      (Benign d) := by
  rintro c ⟨rfl, rfl⟩
  rw [readBytes]
  split_ifs with hin hfits
  · exact And.intro hin ⟨rfl, rfl⟩
  · exact benign_protocolError _
  · exact benign_arithmeticOverflow hfits (by omega)

lemma holds_readU8_here {p : ℕ} :
    Holds (Here d p) readU8 (fun _ c => p + 1 ≤ d.length ∧ Here d (p + 1) c) (Benign d) := by
  rintro c ⟨rfl, rfl⟩
  rw [readU8]
  split_ifs with hin
  · exact And.intro hin ⟨rfl, rfl⟩
  · exact benign_protocolError _

lemma holds_readU16Be_here {p : ℕ} (hp : p ≤ d.length + 2 ^ 35) :
    Holds (Here d p) readU16Be (fun _ c => p + 2 ≤ d.length ∧ Here d (p + 2) c) (Benign d) :=
  (holds_readBytes_here hp (by norm_num)).bind fun _ => .pure fun _ h => h

lemma holds_readU32Be_here {p : ℕ} (hp : p ≤ d.length + 2 ^ 35) :
    Holds (Here d p) readU32Be (fun _ c => p + 4 ≤ d.length ∧ Here d (p + 4) c) (Benign d) :=
  (holds_readBytes_here hp (by norm_num)).bind fun _ => .pure fun _ h => h

/-- A reader that goes on behind what has been read. -/
lemma holds_inside {α : Type} {m : ReadM α} {Q : α → ReadBuffer → Prop}
    (h : Holds (Near d) m Q (Benign d)) : Holds (Inside d) m Q (Benign d) :=
  h.strengthen fun _ => Inside.near

/-- A length and as many bytes, which are then converted. -/
lemma holds_lengthPrefixed {α β : Type} {readLen : ReadM α} {read : α → ReadM β} {f : β → Json}
    (hlen : Holds (Near d) readLen (fun _ => Inside d) (Benign d))
    (hread : ∀ len, Holds (Near d) (read len) (fun _ => Inside d) (Benign d)) :
    Holds (Inside d) (do return f (← read (← readLen))) (fun _ => Inside d) (Benign d) :=
  (holds_inside hlen).bind fun len => (holds_inside (hread len)).bind fun _ => .pure fun _ h => h

lemma holds_decodeOracleNumber {len : ℕ} (hlen : len ≤ 2 ^ 35) :
    Holds (Near d) (decodeOracleNumber floats len) (fun _ => Inside d) (Benign d) :=
  (holds_readBytes hlen).bind fun _ => .pure fun _ h => h.2

lemma holds_decodeExtended :
    Holds (Inside d) decodeExtended (fun _ => Inside d) (Benign d) := by
  apply (holds_inside holds_readU8).bind
  intro extType
  split_ifs
  · apply (holds_inside holds_readU32Be).bind
    intro len
    have hlen : len.toNat ≤ 2 ^ 35 := by have := len.toNat_lt; omega
    exact (holds_inside (holds_readBytes hlen)).bind fun _ => .pure fun _ h => h.2
  · exact .throw (benign_protocolError _)

lemma holds_decodeInline {nodeType : UInt8} :
    Holds (Inside d) (decodeInline floats nodeType) (fun _ => Inside d) (Benign d) := by
  have hlow : (nodeType &&& 0x0f).toNat < 256 := (nodeType &&& 0x0f).toNat_lt
  have htype : nodeType.toNat < 256 := nodeType.toNat_lt
  rw [decodeInline]
  split_ifs
  · exact holds_inside (holds_decodeOracleNumber (by omega))
  · exact holds_inside (holds_decodeOracleNumber (by omega))
  · exact .pure fun _ h => h
  · exact (holds_inside (holds_readString (by omega))).bind fun _ => .pure fun _ h => h
  · exact .throw (benign_protocolError _)

/-! ## Dates and timestamps -/

/-- The number of bytes of a date or a timestamp, by the node type. -/
def timeWidth (nodeType : UInt8) : Option ℕ :=
  if nodeType = typeDate ∨ nodeType = typeTimestamp7 then some 7
  else if nodeType = typeTimestamp then some 11
  else if nodeType = typeTimestampTz then some 13
  else none

/-- The hour, the minute or the second of a date is the byte zero, which it never is in a valid one:
they are stored with one added. -/
def HasZeroTime (bytes : Bytes) : Prop :=
  bytes.getD 4 0 = 0 ∨ bytes.getD 5 0 = 0 ∨ bytes.getD 6 0 = 0

lemma hasZeroTime_take {bytes : Bytes} {n : ℕ} (hn : 7 ≤ n) :
    HasZeroTime (bytes.take n) ↔ HasZeroTime bytes := by
  have hget : ∀ i < 7, (bytes.take n).getD i 0 = bytes.getD i 0 := by
    intro i hi
    rw [List.getD_eq_getElem?_getD, List.getD_eq_getElem?_getD, List.getElem?_take, if_pos (by omega)]
  rw [HasZeroTime, HasZeroTime, hget 4 (by norm_num), hget 5 (by norm_num), hget 6 (by norm_num)]

/-- Enough bytes are a date, or their time has a zero byte. -/
lemma decodeOracleDate_eq_error_iff {bytes : Bytes} (h : 7 ≤ bytes.length) :
    decodeOracleDate bytes = .error e ↔ HasZeroTime bytes ∧ e = .arithmeticOverflow := by
  rw [decodeOracleDate, if_neg (by omega), HasZeroTime]
  generalize bytes.getD 4 0 = hour, bytes.getD 5 0 = minute, bytes.getD 6 0 = second
  by_cases hhour : hour = 0
  · simp [checkedPred, hhour, bind, Except.bind, eq_comm]
  by_cases hminute : minute = 0
  · simp [checkedPred, hhour, hminute, bind, Except.bind, eq_comm]
  by_cases hsecond : second = 0
  · simp [checkedPred, hhour, hminute, hsecond, bind, Except.bind, eq_comm]
  · simp [checkedPred, hhour, hminute, hsecond, bind, Except.bind, pure, Except.pure]

lemma decodeOracleTimestamp_eq_error_iff {bytes : Bytes} (h : 7 ≤ bytes.length) :
    decodeOracleTimestamp bytes = .error e ↔ HasZeroTime bytes ∧ e = .arithmeticOverflow := by
  have hslice : slice bytes 0 7 = .ok (bytes.take 7) := by
    rw [slice, if_pos ⟨by omega, h⟩, List.drop_zero]
  have htake : 7 ≤ (bytes.take 7).length := by simp; omega
  have hdate := @decodeOracleDate_eq_error_iff e _ htake
  rw [hasZeroTime_take (by omega)] at hdate
  rw [← hdate, decodeOracleTimestamp, hslice]
  cases hresult : decodeOracleDate (bytes.take 7) with
  | error e' => simp [bind, Except.bind, hresult]
  | ok text => simp [bind, Except.bind, hresult, pure, Except.pure]

/-- A date or a timestamp is read from as many bytes as it has. -/
lemma exists_decodeScalar_eq (floats : FloatText) {nodeType : UInt8} {width : ℕ}
    (h : timeWidth nodeType = some width) :
    ∃ decodeTime : Bytes → Except Error String,
      decodeScalar floats nodeType =
        (do return .string (← liftExcept (decodeTime (← readBytes width)))) ∧
      ∀ bytes e, bytes.length = width →
        (decodeTime bytes = .error e ↔ HasZeroTime bytes ∧ e = .arithmeticOverflow) := by
  rw [timeWidth] at h
  split_ifs at h with hdate htimestamp htz
  · cases h
    refine ⟨decodeOracleDate, ?_, fun bytes e hlen => decodeOracleDate_eq_error_iff hlen.ge⟩
    rcases hdate with rfl | rfl
    · rfl
    · rfl
  · cases h
    subst htimestamp
    exact ⟨decodeOracleTimestamp, rfl, fun bytes e hlen =>
      decodeOracleTimestamp_eq_error_iff (by omega)⟩
  · cases h
    subst htz
    refine ⟨fun bytes => decodeOracleTimestamp (bytes.take 11), rfl, fun bytes e hlen => ?_⟩
    have htake : 7 ≤ (bytes.take 11).length := by simp; omega
    rw [decodeOracleTimestamp_eq_error_iff htake, hasZeroTime_take (by omega)]

lemma timeWidth_bounds {nodeType : UInt8} {width : ℕ} (h : timeWidth nodeType = some width) :
    7 ≤ width ∧ width ≤ 13 := by
  rw [timeWidth] at h
  split_ifs at h
  all_goals cases h; decide

/-- The scalars that are no dates are read without a panic. -/
lemma holds_decodeScalar {nodeType : UInt8} (ht : timeWidth nodeType = none) :
    Holds (Inside d) (decodeScalar floats nodeType) (fun _ => Inside d) (Benign d) := by
  have hu8 : ∀ len : UInt8, len.toNat ≤ 2 ^ 35 := fun len => by have := len.toNat_lt; omega
  have hu16 : ∀ len : UInt16, len.toNat ≤ 2 ^ 35 := fun len => by have := len.toNat_lt; omega
  have hu32 : ∀ len : UInt32, len.toNat ≤ 2 ^ 35 := fun len => by have := len.toNat_lt; omega
  have hbytes : ∀ len ≤ 2 ^ 35, Holds (Near d) (readBytes len) (fun _ => Inside d) (Benign d) :=
    fun len hlen => (holds_readBytes hlen).weaken fun _ _ h => h.2
  rw [timeWidth] at ht
  split_ifs at ht with hdate htimestamp htz
  rw [decodeScalar]
  refine .ite (fun _ => .pure fun _ h => h) fun _ => ?_
  refine .ite (fun _ => .pure fun _ h => h) fun _ => ?_
  refine .ite (fun _ => .pure fun _ h => h) fun _ => ?_
  refine .ite (fun _ => ?_) fun _ => ?_
  · exact holds_lengthPrefixed holds_readU8 fun len => holds_readString (hu8 len)
  refine .ite (fun _ => ?_) fun _ => ?_
  · exact holds_lengthPrefixed holds_readU16Be fun len => holds_readString (hu16 len)
  refine .ite (fun _ => ?_) fun _ => ?_
  · exact holds_lengthPrefixed holds_readU32Be fun len => holds_readString (hu32 len)
  refine .ite (fun _ => ?_) fun _ => ?_
  · exact (holds_inside holds_readU8).bind fun len =>
      holds_inside (holds_decodeOracleNumber (hu8 len))
  refine .ite (fun _ => ?_) fun _ => ?_
  · exact (holds_inside (hbytes 8 (by norm_num))).bind fun _ => .pure fun _ h => h
  refine .ite (fun _ => ?_) fun _ => ?_
  · exact (holds_inside (hbytes 4 (by norm_num))).bind fun _ => .pure fun _ h => h
  refine .ite (fun h => absurd h hdate) fun _ => ?_
  refine .ite (fun h => absurd h htimestamp) fun _ => ?_
  refine .ite (fun h => absurd h htz) fun _ => ?_
  refine .ite (fun _ => ?_) fun _ => ?_
  · exact holds_lengthPrefixed holds_readU16Be fun len => hbytes _ (hu16 len)
  refine .ite (fun _ => ?_) fun _ => ?_
  · exact holds_lengthPrefixed holds_readU32Be fun len => hbytes _ (hu32 len)
  refine .ite (fun _ => ?_) fun _ => ?_
  · exact holds_lengthPrefixed holds_readU8 fun len => hbytes _ (hu8 len)
  refine .ite (fun _ => holds_decodeExtended) fun _ => ?_
  refine .ite (fun _ => .throw (benign_protocolError _)) fun _ => ?_
  exact holds_decodeInline

/-- A date or a timestamp is read, or it makes the decoder panic. -/
lemma ends_decodeScalar (floats : FloatText) {nodeType : UInt8} {width p : ℕ}
    (h : timeWidth nodeType = some width) (hp : p ≤ d.length) :
    Ends (fun _ => Inside d)
      (fun e => Benign d e ∨ e = .arithmeticOverflow ∧ p + width ≤ d.length ∧
        HasZeroTime (d.drop p)) (decodeScalar floats nodeType ⟨d, p⟩) := by
  obtain ⟨decodeTime, heq, htime⟩ := exists_decodeScalar_eq floats h
  obtain ⟨hmin, hmax⟩ := timeWidth_bounds h
  rw [heq]
  by_cases hin : p + width ≤ d.length
  · have hread : readBytes width ⟨d, p⟩ = .ok ((d.drop p).take width) ⟨d, p + width⟩ := if_pos hin
    have hlen : ((d.drop p).take width).length = width := by simp; omega
    rw [bind_ok hread]
    cases hresult : decodeTime ((d.drop p).take width) with
    | error e =>
      have hzero := (htime _ e hlen).mp hresult
      rw [hasZeroTime_take hmin] at hzero
      exact .inr ⟨hzero.2, hin, hzero.1⟩
    | ok text => exact ⟨rfl, hin⟩
  · obtain ⟨e, c, hread, he⟩ : ∃ e c, readBytes width ⟨d, p⟩ = .error e c ∧ Benign d e := by
      rw [readBytes, if_neg hin]
      split_ifs with hfits
      · exact ⟨_, _, rfl, benign_protocolError _⟩
      · exact ⟨_, _, rfl, benign_arithmeticOverflow hfits (by simp; omega)⟩
    rw [bind_error hread]
    exact .inl he

/-- Scalars leave the position in the data. -/
lemma inside_of_decodeScalar {nodeType : UInt8} {p : ℕ} (hp : p ≤ d.length) {value : Json}
    {c : ReadBuffer} (h : decodeScalar floats nodeType ⟨d, p⟩ = .ok value c) : Inside d c := by
  cases htime : timeWidth nodeType with
  | none => exact (holds_decodeScalar htime).of_ok ⟨rfl, hp⟩ h
  | some width =>
    have hends := ends_decodeScalar floats htime hp
    rwa [h] at hends

/-- A date or a timestamp with a zero byte makes the decoder panic. -/
lemma decodeScalar_of_hasZeroTime (floats : FloatText) {nodeType : UInt8} {width p : ℕ}
    (h : timeWidth nodeType = some width) (hin : p + width ≤ d.length)
    (hzero : HasZeroTime (d.drop p)) :
    ∃ c, decodeScalar floats nodeType ⟨d, p⟩ = .error .arithmeticOverflow c := by
  obtain ⟨decodeTime, heq, htime⟩ := exists_decodeScalar_eq floats h
  obtain ⟨hmin, -⟩ := timeWidth_bounds h
  have hread : readBytes width ⟨d, p⟩ = .ok ((d.drop p).take width) ⟨d, p + width⟩ := if_pos hin
  have hlen : ((d.drop p).take width).length = width := by simp; omega
  have hfail : decodeTime ((d.drop p).take width) = .error .arithmeticOverflow :=
    (htime _ _ hlen).mpr ⟨(hasZeroTime_take hmin).mpr hzero, rfl⟩
  refine ⟨⟨d, p + width⟩, ?_⟩
  rw [heq, bind_ok hread, hfail]
  rfl

/-! ## Containers -/

/-- A context that `parse` has read: the tree segment begins in the data. -/
structure Context.Fits (context : Context) (d : Bytes) : Prop where
  treeSegPos_le : context.treeSegPos ≤ d.length
  fieldIdLength_eq : context.fieldIdLength = 1 ∨ context.fieldIdLength = 2 ∨ context.fieldIdLength = 4

/-- The number of bytes of the offsets of a container. -/
def offsetSize (nodeType : UInt8) : ℕ := if nodeType &&& 0x20 ≠ 0 then 4 else 2

lemma holds_getOffset_here {nodeType : UInt8} {p : ℕ} (hp : p ≤ d.length + 2 ^ 35) :
    Holds (Here d p) (getOffset nodeType)
      (fun _ c => p + offsetSize nodeType ≤ d.length ∧ Here d (p + offsetSize nodeType) c)
      (Benign d) := by
  rw [getOffset, offsetSize]
  split_ifs
  · exact holds_readU32Be_here hp
  · exact (holds_readU16Be_here hp).bind fun _ => .pure fun _ h => h

lemma holds_readFieldId_here (hfits : context.Fits d) {p : ℕ} (hp : p ≤ d.length + 2 ^ 35) :
    Holds (Here d p) (readFieldId context.fieldIdLength)
      (fun _ c => p + context.fieldIdLength ≤ d.length ∧ Here d (p + context.fieldIdLength) c)
      (Benign d) := by
  rw [readFieldId]
  rcases hfits.fieldIdLength_eq with h | h | h
  · rw [h]
    exact holds_readU8_here.bind fun _ => .pure fun _ h => h
  · rw [h]
    exact (holds_readU16Be_here hp).bind fun _ => .pure fun _ h => h
  · rw [h]
    exact (holds_readU32Be_here hp).bind fun _ => .pure fun _ h => h

lemma holds_readNumChildren {nodeType : UInt8} :
    Holds (Inside d) (readNumChildren nodeType) (fun _ => Inside d) (Benign d) := by
  rw [readNumChildren]
  refine .ite (fun _ => ?_) fun _ => ?_
  · exact (holds_inside holds_readU8).bind fun _ => .pure fun _ h => h
  refine .ite (fun _ => ?_) fun _ => ?_
  · exact (holds_inside holds_readU16Be).bind fun _ => .pure fun _ h => h
  refine .ite (fun _ => ?_) fun _ => ?_
  · exact holds_inside holds_readU32Be
  · exact .pure fun _ h => h

/-- The tables of a container begin where 32-bit offsets lead. -/
structure Layout.Fits (layout : Layout) (d : Bytes) : Prop where
  fieldIdsPos_le : layout.fieldIdsPos ≤ d.length
  offsetsPos_le : layout.offsetsPos ≤ d.length + 2 ^ 34

lemma holds_getOffset {nodeType : UInt8} :
    Holds (Near d) (getOffset nodeType) (fun _ => Inside d) (Benign d) := by
  intro c hc
  refine (holds_getOffset_here hc.2 c ⟨hc.1, rfl⟩).imp (fun _ c' h => ⟨h.2.1, ?_⟩) fun _ h => h
  rw [h.2.2]
  exact h.1

/-- The layout that a container shares with another one. -/
lemma holds_readSharedLayout (hfits : context.Fits d) {nodeType : UInt8} :
    Holds (Inside d)
      (do
        let offset ← getOffset nodeType
        let localOffsetsPos ← position
        seek (← liftExcept (addUsize context.treeSegPos offset.toNat))
        let sharedNodeType ← readU8
        let numChildren ← readNumChildren sharedNodeType
        return (⟨← position, localOffsetsPos, numChildren⟩ : Layout))
      (fun layout c => layout.Fits d ∧ Inside d c) (Benign d) := by
  apply (holds_inside holds_getOffset).bind
  intro offset
  have hoffset : context.treeSegPos + offset.toNat ≤ d.length + 2 ^ 32 := by
    have := hfits.treeSegPos_le
    have := offset.toNat_lt
    omega
  apply holds_position_inside.bind
  intro offsetsPos
  refine .assume fun hoffsetsPos => ?_
  apply (holds_addUsize (d := d) (by omega)).bind
  intro place
  refine .assume fun hplace => ?_
  apply (holds_seek.strengthen fun _ h => h.1).bind
  intro _
  apply (holds_readU8.strengthen fun c (hc : Here d place c) => hc.near (by omega)).bind
  intro sharedNodeType
  apply holds_readNumChildren.bind
  intro numChildren
  apply holds_position_inside.bind
  intro fieldIdsPos
  exact .pure fun c hc => ⟨⟨hc.1, hoffsetsPos.trans (Nat.le_add_right _ _)⟩, hc.2⟩

lemma holds_readLayout (hfits : context.Fits d) {nodeType : UInt8} :
    Holds (Inside d) (readLayout context nodeType) (fun layout c => layout.Fits d ∧ Inside d c)
      (Benign d) := by
  apply holds_readNumChildren.bind
  intro numChildren
  refine .ite (fun _ => holds_readSharedLayout hfits) fun _ => .ite (fun _ => ?_) fun _ => ?_
  · apply holds_position_inside.bind
    intro fids
    refine .assume fun hfids => ?_
    have hsize : context.fieldIdLength * numChildren.toNat ≤ 2 ^ 34 := by
      have := numChildren.toNat_lt
      rcases hfits.fieldIdLength_eq with h | h | h <;> rw [h] <;> omega
    apply (holds_addUsize (d := d) (by omega)).bind
    intro offs
    exact .pure fun c hc => ⟨⟨hfids, by simp only [hc.1]; omega⟩, hc.2⟩
  · apply holds_position_inside.bind
    intro offsetsPos
    exact .pure fun c hc => ⟨⟨Nat.zero_le _, hc.1.trans (Nat.le_add_right _ _)⟩, hc.2⟩

/-- What stands in front of the children of the container at `p` is read: the container knows its
type and where it is in the tree segment. -/
lemma holds_readContainer (hfits : context.Fits d) (nodeType : UInt8) {p : ℕ}
    (hp : context.treeSegPos ≤ p) (hin : p < d.length) :
    Holds (Here d (p + 1)) (readContainer context nodeType)
      (fun container c => (container.nodeType = nodeType ∧
        container.containerOffset = p - context.treeSegPos ∧ container.layout.Fits d) ∧ Inside d c)
      (Benign d) := by
  apply holds_position.bind
  intro pos
  refine .assume fun hpos => ?_
  have hsub : subUsize pos context.treeSegPos = .ok (pos - context.treeSegPos) := if_pos (by omega)
  have hpred : subUsize (pos - context.treeSegPos) 1 = .ok (p - context.treeSegPos) := by
    rw [subUsize, if_pos (by omega), hpos]
    congr 1
    omega
  simp only [hsub, hpred, liftExcept, pure_bind]
  apply (holds_readLayout hfits |>.strengthen fun c (hc : Here d (p + 1) c) =>
    ⟨hc.1, hc.2.trans_le hin⟩).bind
  intro layout
  refine .assume fun hlayout => .ite (fun _ => ?_) fun _ => ?_
  · exact .pure fun c hc => ⟨⟨rfl, rfl, hlayout⟩, hc⟩
  · apply holds_position_inside.bind
    intro offsetsPos
    exact .pure fun c hc =>
      ⟨⟨rfl, rfl, ⟨hlayout.1, hc.1.trans (Nat.le_add_right _ _)⟩⟩, hc.2⟩

/-! ## Children -/

lemma holds_readField (hfits : context.Fits d) {fieldIdsPos : ℕ}
    (hpos : fieldIdsPos ≤ d.length + 2 ^ 35) :
    Holds (fun c => c.data = d) (readField context fieldIdsPos)
      (fun field c => (field.2 = fieldIdsPos + context.fieldIdLength ∧ field.2 ≤ d.length) ∧
        c.data = d) (Benign d) := by
  apply holds_seek.bind
  intro _
  apply (holds_readFieldId_here hfits hpos).bind
  intro fieldId
  refine .assume fun hin => ?_
  apply holds_position.bind
  intro pos
  exact .pure fun c hc => ⟨⟨hc.1, hc.1.trans_le hin⟩, hc.2.1⟩

/-- The offset of a child relative to its container does not fit into 32 bits. -/
def OffsetOverflows (context : Context) (d : Bytes) (container : Container) (offsetsPos : ℕ) : Prop :=
  context.relativeOffsets = true ∧ ∃ valueOffset c,
    getOffset container.nodeType ⟨d, offsetsPos⟩ = .ok valueOffset c ∧
      2 ^ 32 ≤ container.containerOffset % 2 ^ 32 + valueOffset.toNat

/-- The offset of a child with the offset of the container, if it is relative. -/
def actualOffset (context : Context) (container : Container) (valueOffset : UInt32) :
    Except Error UInt32 :=
  if context.relativeOffsets then
    checkedAdd (UInt32.ofNat container.containerOffset) valueOffset
  else .ok valueOffset

/-- What is read of a child once its offset is known. -/
lemma readChild_eq {container : Container} {offsetsPos : ℕ} {c c' : ReadBuffer} (hc : c.data = d)
    {valueOffset : UInt32}
    (h : getOffset container.nodeType ⟨d, offsetsPos⟩ = .ok valueOffset c') :
    readChild context container offsetsPos c =
      (do
        let actual ← liftExcept (actualOffset context container valueOffset)
        return (← liftExcept (addUsize context.treeSegPos actual.toNat), c'.pos) : ReadM (ℕ × ℕ))
        c' := by
  have hseek : seek offsetsPos c = .ok () ⟨d, offsetsPos⟩ := by rw [← hc]; rfl
  have hposition : position c' = .ok c'.pos c' := rfl
  rw [readChild, bind_ok hseek, bind_ok h, bind_ok hposition, actualOffset]
  split_ifs <;> rfl

/-- A child is located, or its offset cannot be read, or it does not fit into 32 bits. -/
lemma ends_readChild (hfits : context.Fits d) (container : Container) {offsetsPos : ℕ}
    (hpos : offsetsPos ≤ d.length + 2 ^ 35) {c : ReadBuffer} (hc : c.data = d) :
    Ends (fun child c' => (child.2 = offsetsPos + offsetSize container.nodeType ∧
        child.2 ≤ d.length ∧ context.treeSegPos ≤ child.1 ∧ child.1 ≤ d.length + 2 ^ 32) ∧
        c'.data = d)
      (fun e => Benign d e ∨ e = .arithmeticOverflow ∧
        OffsetOverflows context d container offsetsPos)
      (readChild context container offsetsPos c) := by
  have hseek : seek offsetsPos c = .ok () ⟨d, offsetsPos⟩ := by rw [← hc]; rfl
  have hget : Holds (Here d offsetsPos) (getOffset container.nodeType) _ _ :=
    holds_getOffset_here hpos
  cases hrun : getOffset container.nodeType ⟨d, offsetsPos⟩ with
  | error e c' =>
    rw [readChild, bind_ok hseek, bind_error hrun]
    exact .inl (hget.of_error ⟨rfl, rfl⟩ hrun)
  | ok valueOffset c' =>
    obtain ⟨hin, hdata, hpos'⟩ := hget.of_ok ⟨rfl, rfl⟩ hrun
    rw [readChild_eq hc hrun]
    cases hactual : actualOffset context container valueOffset with
    | error e =>
      rw [actualOffset, checkedAdd] at hactual
      split_ifs at hactual with hrel hlt
      cases hactual
      rw [UInt32.toNat_ofNat'] at hlt
      exact .inr ⟨rfl, hrel, valueOffset, c', hrun, not_lt.mp hlt⟩
    | ok actual =>
      have htree := hfits.treeSegPos_le
      have hlt := actual.toNat_lt
      have hadd := holds_addUsize (d := d) (P := fun c => c.data = d) (a := context.treeSegPos)
        (b := actual.toNat) (by omega)
      refine (hadd.bind (R := fun child c => (child.2 = offsetsPos + offsetSize container.nodeType ∧
        child.2 ≤ d.length ∧ context.treeSegPos ≤ child.1 ∧ child.1 ≤ d.length + 2 ^ 32) ∧
        c.data = d) (fun place => .pure fun c'' h => ⟨⟨hpos', hpos'.trans_le hin, ?_, ?_⟩, h.2⟩)
        c' hdata).imp (fun _ _ h => h) fun _ h => .inl h
      · simp only [h.1]
        omega
      · simp only [h.1]
        omega

/-- An offset that does not fit into 32 bits makes the decoder panic. -/
lemma OffsetOverflows.readChild_eq {container : Container} {offsetsPos : ℕ}
    (h : OffsetOverflows context d container offsetsPos) {c : ReadBuffer} (hc : c.data = d) :
    ∃ c', readChild context container offsetsPos c = .error .arithmeticOverflow c' := by
  obtain ⟨hrel, valueOffset, c', hrun, hle⟩ := h
  refine ⟨c', ?_⟩
  rw [Oson.readChild_eq hc hrun, actualOffset, if_pos hrel, checkedAdd, UInt32.toNat_ofNat',
    if_neg (by omega)]
  rfl

/-! ## Field names -/

/-- A name, with the length in front of it, is in the segment of the names. -/
def NameInside (prefixSize : ℕ) (segment : Bytes) (offset : UInt32) : Prop :=
  offset.toNat + prefixSize +
    BigEndian.eval ((segment.drop offset.toNat).take prefixSize) ≤ segment.length

lemma slice_eq_ok {data : Bytes} {start stop : ℕ} (h : start ≤ stop) (h' : stop ≤ data.length) :
    slice data start stop = .ok ((data.drop start).take (stop - start)) := if_pos ⟨h, h'⟩

lemma slice_eq_error {data : Bytes} {start stop : ℕ} (h : data.length < stop) :
    slice data start stop = .error (.indexOutOfBounds stop data.length) := if_neg (by omega)

/-- A name in the segment is read; the source panics at any other one. -/
lemma fieldNameAt_cases (prefixSize : ℕ) (segment : Bytes) (offset : UInt32) :
    NameInside prefixSize segment offset ∧
        (∃ name, fieldNameAt prefixSize segment offset = .ok name) ∨
      ¬ NameInside prefixSize segment offset ∧
        ∃ index, fieldNameAt prefixSize segment offset =
          .error (.indexOutOfBounds index segment.length) := by
  rw [NameInside, fieldNameAt]
  set nameLen := BigEndian.eval ((segment.drop offset.toNat).take prefixSize) with hnameLen
  by_cases hlength : offset.toNat + prefixSize ≤ segment.length
  · rw [slice_eq_ok (Nat.le_add_right _ _) hlength, Nat.add_sub_cancel_left]
    by_cases hname : offset.toNat + prefixSize + nameLen ≤ segment.length
    · refine .inl ⟨hname, ?_⟩
      simp only [bind, Except.bind, ← hnameLen]
      rw [slice_eq_ok (Nat.le_add_right _ _) hname]
      exact ⟨_, rfl⟩
    · refine .inr ⟨hname, offset.toNat + prefixSize + nameLen, ?_⟩
      simp only [bind, Except.bind, ← hnameLen]
      rw [slice_eq_error (not_le.mp hname)]
  · refine .inr ⟨by omega, offset.toNat + prefixSize, ?_⟩
    rw [slice_eq_error (not_le.mp hlength)]
    rfl

lemma mapM_fieldNameAt_cases (prefixSize : ℕ) (segment : Bytes) (offsets : List UInt32) :
    (∀ offset ∈ offsets, NameInside prefixSize segment offset) ∧
        (∃ names, offsets.mapM (fieldNameAt prefixSize segment) = .ok names) ∨
      ¬ (∀ offset ∈ offsets, NameInside prefixSize segment offset) ∧
        ∃ index, offsets.mapM (fieldNameAt prefixSize segment) =
          .error (.indexOutOfBounds index segment.length) := by
  induction offsets with
  | nil => exact .inl ⟨nofun, [], rfl⟩
  | cons offset offsets ih =>
    rw [List.forall_mem_cons, List.mapM_cons]
    rcases fieldNameAt_cases prefixSize segment offset with ⟨hin, name, hname⟩ | ⟨hout, index, hname⟩
    · rcases ih with ⟨hins, names, hnames⟩ | ⟨houts, index, hnames⟩
      · exact .inl ⟨⟨hin, hins⟩, name :: names, by rw [hname, hnames]; rfl⟩
      · exact .inr ⟨fun h => houts h.2, index, by rw [hname, hnames]; rfl⟩
    · exact .inr ⟨fun h => hout h.1, index, by rw [hname]; rfl⟩

lemma holds_each {α β : Type} {m : β → ReadM α} {P : ReadBuffer → Prop} {E : Error → Prop}
    (h : ∀ x, Holds P (m x) (fun _ => P) E) (xs : List β) :
    Holds P (each m xs) (fun _ => P) E := by
  induction xs with
  | nil => exact .pure fun _ hc => hc
  | cons x xs ih => exact (h x).bind fun _ => ih.bind fun _ => .pure fun _ hc => hc

lemma holds_readNameOffset {offsetsSize : ℕ} :
    Holds (Near d) (readNameOffset offsetsSize) (fun _ => Inside d) (Benign d) := by
  rw [readNameOffset]
  split_ifs
  · exact holds_readU16Be.bind fun _ => .pure fun _ h => h
  · exact holds_readU32Be

/-- The table of the offsets of the names is in the data, or it cannot be read. -/
lemma holds_readNameOffsets {hashSize : ℕ} {numFields : UInt32} {offsetsSize : ℕ}
    (hhash : hashSize ≤ 2) (hnum : 0 < numFields) :
    Holds (Inside d) (readNameOffsets hashSize numFields offsetsSize) (fun _ => Inside d)
      (Benign d) := by
  have hsize : numFields.toNat * hashSize ≤ 2 ^ 33 := by
    have := numFields.toNat_lt
    exact (Nat.mul_le_mul_left _ hhash).trans (by omega)
  obtain ⟨n, hn⟩ : ∃ n, numFields.toNat = n + 1 := by
    have : 0 < numFields.toNat := UInt32.lt_iff_toNat_lt.mp hnum
    exact ⟨numFields.toNat - 1, by omega⟩
  apply Holds.bind (Q := fun _ => Near d)
  · apply holds_position_inside.bind
    intro pos
    refine .assume fun hpos => ?_
    apply (holds_addUsize (d := d) (by omega)).bind
    intro stop
    refine .assume fun hstop => ?_
    exact (holds_seek.strengthen fun _ h => h.1).weaken fun _ c (hc : Here d stop c) =>
      hc.near (by omega)
  · intro _
    rw [hn, times, List.replicate_succ]
    exact holds_readNameOffset.bind fun _ =>
      (holds_each (fun _ => holds_inside holds_readNameOffset) _).bind fun _ => .pure fun _ h => h

/-! ## The header -/

/-- A triple about errors that may be panics. -/
lemma holds_ne_stuck {α : Type} {m : ReadM α} {P : ReadBuffer → Prop} {Q : α → ReadBuffer → Prop}
    (h : Holds P m Q (Benign d)) : Holds P m Q (· ≠ .stuck) :=
  h.conseq (fun _ hc => hc) (fun _ _ hq => hq) fun _ he => he.1

lemma holds_slice {P : ReadBuffer → Prop} {start stop : ℕ} :
    Holds P (liftExcept (slice d start stop)) (fun _ c => stop ≤ d.length ∧ P c) (· ≠ .stuck) := by
  rw [slice]
  split_ifs with h
  · exact .pure fun _ hc => ⟨h.2, hc⟩
  · exact .throw (by simp)

lemma holds_fieldNames {P : ReadBuffer → Prop} {prefixSize : ℕ} {segment : Bytes}
    {offsets : List UInt32} :
    Holds P (liftExcept (offsets.mapM (fieldNameAt prefixSize segment))) (fun _ => P)
      (· ≠ .stuck) := by
  rcases mapM_fieldNameAt_cases prefixSize segment offsets with ⟨-, names, h⟩ | ⟨-, index, h⟩
  · rw [h]
    exact .pure fun _ hc => hc
  · rw [h]
    exact .throw (by simp)

lemma holds_readFieldNames {hashSize prefixSize : ℕ} {numFields : UInt32} {offsetsSize : ℕ}
    {segSize : UInt32} (hhash : hashSize ≤ 2) (hnum : 0 < numFields) :
    Holds (Inside d) (readFieldNames hashSize prefixSize numFields offsetsSize segSize)
      (fun _ => Inside d) (· ≠ .stuck) := by
  apply (holds_ne_stuck (holds_readNameOffsets hhash hnum)).bind
  intro offsets
  apply holds_position_inside.bind
  intro start
  refine .assume fun hstart => ?_
  apply Holds.bind (Q := fun buf c => buf.data = d ∧ Inside d c) (.get fun _ hc => ⟨hc.1, hc⟩)
  intro buf
  refine .assume fun hbuf => ?_
  rw [hbuf]
  have hseg := segSize.toNat_lt
  apply (holds_ne_stuck (holds_addUsize (d := d) (by omega))).bind
  intro stop
  refine .assume fun _ => ?_
  apply holds_slice.bind
  intro segment
  refine .assume fun hstop => ?_
  apply (holds_seek.strengthen fun _ h => h.1).bind
  intro _
  exact holds_fieldNames.strengthen fun c hc => ⟨hc.1, hc.2.trans_le hstop⟩

lemma holds_readShortFieldNames {numFields : UInt32} {offsetsSize : ℕ} {segSize : UInt32} :
    Holds (Inside d) (readShortFieldNames numFields offsetsSize segSize) (fun _ => Inside d)
      (· ≠ .stuck) :=
  .ite (fun h => holds_readFieldNames (by norm_num) h) fun _ => .pure fun _ hc => hc

lemma holds_readLongFieldNames {numFields : UInt32} {offsetsSize : ℕ} {segSize : UInt32} :
    Holds (Inside d) (readLongFieldNames numFields offsetsSize segSize) (fun _ => Inside d)
      (· ≠ .stuck) :=
  .ite (fun h => holds_readFieldNames (by norm_num) h) fun _ => .pure fun _ hc => hc

lemma holds_readNumFieldNames {primaryFlags : UInt16} :
    Holds (Inside d) (readNumFieldNames primaryFlags)
      (fun num c => (num.2 = 1 ∨ num.2 = 2 ∨ num.2 = 4) ∧ Inside d c) (Benign d) := by
  refine .ite (fun _ => ?_) fun _ => .ite (fun _ => ?_) fun _ => ?_
  · exact (holds_inside holds_readU32Be).bind fun _ => .pure fun _ hc => ⟨.inr (.inr rfl), hc⟩
  · exact (holds_inside holds_readU16Be).bind fun _ => .pure fun _ hc => ⟨.inr (.inl rfl), hc⟩
  · exact (holds_inside holds_readU8).bind fun _ => .pure fun _ hc => ⟨.inl rfl, hc⟩

lemma holds_readSegSize {primaryFlags flag : UInt16} :
    Holds (Inside d) (readSegSize primaryFlags flag) (fun _ => Inside d) (Benign d) := by
  refine .ite (fun _ => holds_inside holds_readU32Be) fun _ => ?_
  exact (holds_inside holds_readU16Be).bind fun _ => .pure fun _ hc => hc

lemma holds_readLongHeader {version : UInt8} :
    Holds (Inside d) (readLongHeader version) (fun _ => Inside d) (Benign d) := by
  refine .ite (fun _ => ?_) fun _ => .pure fun _ hc => hc
  apply (holds_inside holds_readU16Be).bind
  intro secondaryFlags
  apply (holds_inside holds_readU32Be).bind
  intro num
  exact (holds_inside holds_readU32Be).bind fun _ => .pure fun _ hc => hc

lemma holds_readHeader {version : UInt8} {primaryFlags : UInt16} :
    Holds (Inside d) (readHeader version primaryFlags)
      (fun header c => (header.fieldIdLength = 1 ∨ header.fieldIdLength = 2 ∨
        header.fieldIdLength = 4) ∧ Inside d c) (Benign d) := by
  apply holds_readNumFieldNames.bind
  intro num
  refine .assume fun hnum => ?_
  apply holds_readSegSize.bind
  intro shortSegSize
  apply holds_readLongHeader.bind
  intro long
  apply holds_readSegSize.bind
  intro treeSegSize
  apply (holds_inside holds_readU16Be).bind
  intro numTinyNodes
  exact .pure fun _ hc => ⟨hnum, hc⟩

/-- The tree segment begins behind what has been read, where the root node is. -/
def Context.BeginsAt (context : Context) (d : Bytes) (c : ReadBuffer) : Prop :=
  context.Fits d ∧ context.treeSegPos ≤ c.pos ∧ c.data = d ∧ c.pos ≤ d.length + 2 ^ 32

lemma holds_readDictionary {version : UInt8} {primaryFlags : UInt16} :
    Holds (Inside d) (readDictionary version primaryFlags) (fun context => context.BeginsAt d)
      (· ≠ .stuck) := by
  apply (holds_ne_stuck holds_readHeader).bind
  intro header
  refine .assume fun hheader => ?_
  apply holds_readShortFieldNames.bind
  intro shortNames
  apply holds_readLongFieldNames.bind
  intro longNames
  apply Holds.bind (Q := fun pos c => Here d pos c ∧ Inside d c)
  · exact Holds.bind (Q := fun c c' => Here d c.pos c' ∧ Inside d c')
      (.get fun _ hc => ⟨⟨hc.1, rfl⟩, hc⟩) fun _ => .pure fun _ hc => hc
  · exact fun pos => .pure fun c hc =>
      ⟨⟨hc.1.2 ▸ hc.2.2, hheader⟩, hc.1.2.ge, hc.1.1, hc.2.2.trans (Nat.le_add_right _ _)⟩

lemma holds_skipScalarHeader {primaryFlags : UInt16} :
    Holds (Inside d) (skipScalarHeader primaryFlags) (fun context => context.BeginsAt d)
      (Benign d) := by
  apply Holds.bind (Q := fun _ c => c.data = d ∧ c.pos ≤ d.length + 2 ^ 32)
  · have hsize : (if primaryFlags &&& flagTreeSegUint32 ≠ 0 then 4 else 2) ≤ 4 := by
      split_ifs <;> norm_num
    apply holds_position_inside.bind
    intro pos
    refine .assume fun hpos => ?_
    apply (holds_addUsize (d := d) (by omega)).bind
    intro stop
    refine .assume fun hstop => ?_
    exact (holds_seek.strengthen fun _ h => h.1).weaken fun _ c hc => ⟨hc.1, by rw [hc.2]; omega⟩
  · exact fun _ => .pure fun c hc => ⟨⟨Nat.zero_le _, .inl rfl⟩, Nat.zero_le _, hc⟩

lemma holds_require {P : ReadBuffer → Prop} {ok : Bool} {message : String} :
    Holds P (require ok (.protocolError message)) (fun _ => P) (Benign d) :=
  .ite (fun _ => .pure fun _ hc => hc) fun _ => .throw (benign_protocolError message)

lemma holds_readFlags : Holds (Here d 0) readFlags (fun _ => Inside d) (Benign d) := by
  apply Holds.bind (Q := fun _ c => c.data = d) (.get fun _ hc => hc.1)
  intro buf
  apply holds_require.bind
  intro _
  apply holds_require.bind
  intro _
  apply holds_seek.bind
  intro _
  apply (holds_readU8.strengthen fun c (hc : Here d 3 c) => hc.near (by omega)).bind
  intro version
  apply holds_require.bind
  intro _
  exact (holds_inside holds_readU16Be).bind fun _ => .pure fun _ hc => hc

/-- What stands in front of the root node is read, or it fails. -/
theorem holds_readContext :
    Holds (Here d 0) readContext (fun context => context.BeginsAt d) (· ≠ .stuck) :=
  (holds_ne_stuck holds_readFlags).bind fun _ =>
    .ite (fun _ => holds_ne_stuck holds_skipScalarHeader) fun _ => holds_readDictionary

end OracleRs.Oson
