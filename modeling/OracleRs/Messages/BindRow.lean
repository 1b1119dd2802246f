import OracleRs.Messages.BindValue
import OracleRs.Response.Row
import OracleRs.Types.Integer

set_option relaxedAutoImplicit false
set_option autoImplicit false

/-!
# Reading bind values back

A row of scalar bind values, as `write_bind_value` writes it, against the reader of column values
`parse_column_value`. Most kinds of values are written behind their length and read back exactly.
Two kinds are not framed as the reader expects: texts of more than 252 bytes lack the end of
their chunks, and booleans announce two bytes of which one is written.

## Main definitions

* `OracleRs.Value.IsScalar`, `OracleRs.Value.Suits` — the values in question and the columns that
  they suit.
* `OracleRs.Value.Framed` — the value is written as the reader expects.
* `OracleRs.RowReadsBack` — column after column is read back from the bytes of a row.

## Main results

* `OracleRs.rowReadsBack_iff` — a row is read back if and only if all its values are framed.
-/

namespace OracleRs

open Cursor
open Sink (Writes)

/-! ## Values and columns -/

namespace Value

/-- A scalar value; a timestamp has no time zone. -/
def IsScalar : Value → Prop
  | null | typedNull _ | string _ | bytes _ | integer _ | float _ | date _ | intervalYM _
  | intervalDS _ | boolean _ => True
  | timestamp ts => ts.tzHourOffset = 0 ∧ ts.tzMinuteOffset = 0
  | _ => False

/-- The value suits a column of the type; NULL suits every column. -/
def Suits : Value → OracleType → Prop
  | null, _ | typedNull _, _ => True
  | string _, t => t = .varchar ∨ t = .char ∨ t = .long
  | bytes _, t => t = .raw ∨ t = .longRaw
  | integer _, t => t = .number ∨ t = .binaryInteger
  | float _, t => t = .binaryDouble
  | date _, t => t = .date
  | timestamp _, t => t = .timestamp
  | intervalYM _, t => t = .intervalYm
  | intervalDS _, t => t = .intervalDs
  | boolean _, t => t = .boolean
  | _, _ => False

/-- A scalar value suits the type that is declared for it. -/
lemma suits_inferBindMetadata {v : Value} (h : v.IsScalar) (maxSize : UInt32) :
    v.Suits (inferBindMetadata v maxSize).oracleType := by
  cases v with
  | null | typedNull _ | float _ | date _ | timestamp _ | intervalYM _ | intervalDS _ | boolean _ =>
    trivial
  | string _ | bytes _ | integer _ => exact Or.inl rfl
  | _ => exact h.elim

/-- The value is written as the reader of columns expects it: a text in at most 252 bytes, every
part of a date, timestamp or interval fits its bytes, and it is no boolean. -/
def Framed : Value → Prop
  | string s => (OracleRs.asBytes s).length ≤ 252
  | bytes b => b.length ≤ 252
  | date d => d.Fits
  | timestamp ts => ts.Fits
  | intervalYM interval => FitsOffset interval.months
  | intervalDS interval =>
    FitsOffset interval.hours ∧ FitsOffset interval.minutes ∧ FitsOffset interval.seconds
  | boolean _ => False
  | _ => True

/-- A string has fewer than `2 ^ 32` bytes. -/
def TextFits : Value → Prop
  | string s => (OracleRs.asBytes s).length < 2 ^ 32
  | _ => True

lemma Framed.textFits {v : Value} (h : v.Framed) : v.TextFits := by
  cases v with
  | string s => exact lt_of_le_of_lt h (by decide)
  | _ => trivial

end Value

/-- The column after column reading of a row: of the bytes that are written for the row, the first
columns, whatever their number, take exactly those that are written for the first values, and
return these values. -/
def RowReadsBack (encoders : Encoders) (codecs : Codecs) (caps : Capabilities)
    (row : List (Value × ColumnInfo)) : Prop :=
  ∃ buf, writeBindRow encoders (row.map Prod.fst) Sink.empty = .ok () buf ∧
    ∀ k ≤ row.length, ∃ buf',
      writeBindRow encoders ((row.take k).map Prod.fst) Sink.empty = .ok () buf' ∧
      each (parseColumnValue codecs caps) ((row.take k).map Prod.snd) ⟨buf.data, 0⟩ =
        .ok ((row.take k).map fun cell => cell.1.readBack) ⟨buf.data, buf'.data.length⟩

/-! ## Short values -/

section Reading

variable {codecs : Codecs} {caps : Capabilities} {col : ColumnInfo}

/-- A short value is read back from its bytes if and only if they decode to it. -/
lemma parse_short_iff (hcol : col.isScalar) {data : Bytes} (hlen : data.length ≤ 252) {x : Value}
    {c : ReadBuffer} {r : Bytes} (hc : c.rest = (UInt8.ofNat data.length :: data) ++ r) :
    parseColumnValue codecs caps col c =
        .ok x (c.advance (UInt8.ofNat data.length :: data).length) ↔
      scalarValue col.oracleType (some data) = .ok x := by
  have hread := (ByteString.short data hlen).reads_readBytesWithLength c r hc
  rw [parseColumnValue_of_scalar hcol, bind_ok hread]
  cases hv : scalarValue col.oracleType (some data) with
  | error e =>
    simp only [ByteString.content, hv]
    exact iff_of_false (fun h => by cases h) fun h => by cases h
  | ok v =>
    simp only [ByteString.content, hv, Except.ok.injEq]
    constructor
    · intro h
      cases h
      rfl
    · rintro rfl
      rfl

/-- What a column is read as is decoded from some bytes, behind which the reader stands. -/
lemma exists_of_parse (hcol : col.isScalar) {x : Value} {c c' : ReadBuffer}
    (h : parseColumnValue codecs caps col c = .ok x c') :
    ∃ data, readBytesWithLength c = .ok data c' ∧ scalarValue col.oracleType data = .ok x := by
  rw [parseColumnValue_of_scalar hcol] at h
  obtain ⟨data, c₁, hread, hvalue⟩ := exists_of_bind_ok h
  cases hv : scalarValue col.oracleType data with
  | error e => rw [hv] at hvalue; cases hvalue
  | ok v =>
    rw [hv] at hvalue
    cases hvalue
    exact ⟨data, hread, hv⟩

end Reading

lemma scalarValue_of_ne_nil {t : OracleType} {data : Bytes} (h : data ≠ []) :
    scalarValue t (some data) = decodeColumnValue t data := by
  cases data with
  | nil => exact (h rfl).elim
  | cons _ _ => rfl

/-- No column is read as a boolean. -/
lemma scalarValue_ne_boolean (data : Option Bytes) (b : Bool) :
    scalarValue .boolean data ≠ .ok (.boolean b) := by
  intro h
  unfold scalarValue at h
  split at h <;> cases h

/-! ## Long texts -/

/-- A text that is written without the end of its chunks is not read back: what is read from its
bytes alone is shorter, and if its length fits 32 bits, nothing is.

**Proof sketch.** The length is written modulo `2 ^ 32`, so the first chunk is the beginning of the
text. The chunk loop goes on behind it and takes at least one byte more than it adds. -/
lemma unterminated {data : Bytes} (hlong : 252 < data.length) {c c' : ReadBuffer} {r : Bytes}
    {bytes : Option Bytes}
    (hc : c.rest = (254 :: (ubBytes (UInt32.ofNat data.length).toNat ++ data)) ++ r)
    (hread : readBytesWithLength c = .ok bytes c') (hstop : c'.rest.length = r.length) :
    ∃ b, bytes = some b ∧ b.length < data.length ∧ 2 ^ 32 ≤ data.length := by
  have hindicator : readU8 c = .ok 254 (c.advance 1) := reads_readU8 254 c _ hc
  have hrest : (c.advance 1).rest = ubBytes (UInt32.ofNat data.length).toNat ++ (data ++ r) := by
    rw [rest_advance, hc]
    simp
  rw [readBytesWithLength, bind_ok hindicator, if_neg (by decide), if_pos (by decide)] at hread
  obtain ⟨b, c₁, hchunks, hret⟩ := exists_of_bind_ok hread
  cases hret
  refine ⟨b, rfl, ?_⟩
  obtain ⟨x, c₂, hturn, hrun⟩ := exists_of_bind_ok (hchunks :)
  have hsize := reads_ubBytes4 _ _ _ hrest
  rw [readChunk, bind_ok hsize] at hturn
  have hrest' := rest_advance_of_append hrest
  have hmod : (UInt32.ofNat data.length).toNat = data.length % 2 ^ 32 := UInt32.toNat_ofNat'
  by_cases hzero : (UInt32.ofNat data.length).toNat = 0
  · -- the written length is zero: the loop ends at once
    simp only [hzero, if_true] at hturn
    cases hturn
    cases hrun
    simp only [List.length_nil]
    omega
  · simp only [hzero, if_false] at hturn
    obtain ⟨chunk, c₃, hchunk, hret⟩ := exists_of_bind_ok hturn
    cases hret
    obtain ⟨hlen, hleft⟩ := length_of_readBytesVec hchunk
    have hgo := length_of_loop_readChunk _ hrun
    rw [hrest', List.length_append] at hleft
    simp only [List.nil_append] at hgo
    omega

/-! ## One value -/

lemma writes_writeShort (b : Bytes) : Writes (writeShort b) (UInt8.ofNat b.length :: b) :=
  (writes_writeU8 _).bind (writes_writeBytes b)

/-- A text of more than 252 bytes. -/
lemma writes_writeText {b : Bytes} (h : 252 < b.length) :
    Writes (writeText b) (254 :: (ubBytes (UInt32.ofNat b.length).toNat ++ b)) := by
  have hne : b ≠ [] := List.ne_nil_of_length_pos (by omega)
  rw [writeText, if_neg hne, if_neg (by omega)]
  exact (writes_writeU8 254).bind ((writes_writeUb4 _).bind (writes_writeBytes b))

/-- A text of at most 252 bytes; an empty one is NULL. -/
lemma writes_writeText_short {b : Bytes} (h : b.length ≤ 252) :
    Writes (writeText b) (UInt8.ofNat b.length :: b) := by
  by_cases hnil : b = []
  · rw [writeText, if_pos hnil, hnil]
    exact writes_writeU8 0
  · rw [writeText, if_neg hnil, if_pos h]
    exact writes_writeShort b

/-- A result under an injective function. -/
lemma map_eq_ok_iff {ε α β : Type} {f : α → β} (hf : Function.Injective f) {x : Except ε α}
    {a : α} : f <$> x = .ok (f a) ↔ x = .ok a := by
  cases x with
  | error e => exact iff_of_false nofun nofun
  | ok y =>
    rw [Except.ok.injEq]
    change Except.ok (f y) = .ok (f a) ↔ _
    rw [Except.ok.injEq, hf.eq_iff]

/-- The value is written as the bytes `b`, and it is read back from them if and only if it is
framed. -/
structure WrittenAs (encoders : Encoders) (codecs : Codecs) (caps : Capabilities)
    (col : ColumnInfo) (v : Value) (b : Bytes) : Prop where
  writes : Writes (writeBindValue encoders v) b
  parse_iff : ∀ (c : ReadBuffer) (r : Bytes), c.rest = b ++ r →
    (parseColumnValue codecs caps col c = .ok v.readBack (c.advance b.length) ↔ v.Framed)

section Value

variable {encoders : Encoders} {codecs : Codecs} {caps : Capabilities} {col : ColumnInfo}
  {v : Value}

/-- A value that is written as a few bytes behind their number. -/
lemma writtenAs_short (hcol : col.isScalar) (data : Bytes) (hlen : data.length ≤ 252)
    (hwrite : Writes (writeBindValue encoders v) (UInt8.ofNat data.length :: data))
    (hvalue : scalarValue col.oracleType (some data) = .ok v.readBack ↔ v.Framed) :
    WrittenAs encoders codecs caps col v (UInt8.ofNat data.length :: data) :=
  ⟨hwrite, fun _ _ hc => (parse_short_iff hcol hlen hc).trans hvalue⟩

/-- A string or byte string, whose column decodes `data` to it and nothing shorter than a text
of `2 ^ 32` bytes. -/
lemma writtenAs_text (hcol : col.isScalar) (data : Bytes)
    (hwrite : writeBindValue encoders v = writeText data)
    (hvalue : scalarValue col.oracleType (some data) = .ok v.readBack)
    (hframed : v.Framed ↔ data.length ≤ 252)
    (hdecode : ∀ b, b.length < data.length → 2 ^ 32 ≤ data.length →
      scalarValue col.oracleType (some b) ≠ .ok v.readBack) :
    ∃ b, WrittenAs encoders codecs caps col v b := by
  by_cases hlen : data.length ≤ 252
  · refine ⟨_, writtenAs_short hcol data hlen ?_ (iff_of_true hvalue (hframed.mpr hlen))⟩
    rw [hwrite]
    exact writes_writeText_short hlen
  · refine ⟨_, hwrite ▸ writes_writeText (by omega), fun c r hc => ?_⟩
    refine iff_of_false (fun hparse => ?_) (fun h => hlen (hframed.mp h))
    obtain ⟨bytes, hread, hscalar⟩ := exists_of_parse hcol hparse
    obtain ⟨b, rfl, hlt, hlarge⟩ :=
      unterminated (by omega) hc hread (by rw [rest_advance_of_append hc])
    exact hdecode b hlt hlarge hscalar

variable (encoders codecs caps) in
/-- How a scalar value is written, and when it is read back. -/
lemma exists_writtenAs (hcol : col.isScalar) (hscalar : v.IsScalar) (hsuits : v.Suits col.oracleType)
    (hfits : v.TextFits) : ∃ b, WrittenAs encoders codecs caps col v b := by
  cases v with
  | null =>
    exact ⟨_, writtenAs_short hcol [] (by simp) (writes_writeU8 0) (iff_of_true rfl trivial)⟩
  | typedNull t =>
    exact ⟨_, writtenAs_short hcol [] (by simp) (writes_writeU8 0) (iff_of_true rfl trivial)⟩
  | string s =>
    refine writtenAs_text hcol (asBytes s) rfl ?_ Iff.rfl fun _ _ hlarge => ?_
    · by_cases hnil : asBytes s = []
      · rw [Value.readBack, if_pos hnil, hnil]
        rfl
      · rw [Value.readBack, if_neg hnil, scalarValue_of_ne_nil hnil]
        obtain h | h | h := hsuits <;> rw [h, decodeColumnValue, fromUtf8Lossy_asBytes]
    · exact absurd hlarge (Nat.not_le_of_lt hfits)
  | bytes b =>
    have hdecode : ∀ data : Bytes, data ≠ [] →
        scalarValue col.oracleType (some data) = .ok (.bytes data) := by
      intro data hnil
      rw [scalarValue_of_ne_nil hnil]
      obtain h | h := hsuits <;> rw [h, decodeColumnValue]
    refine writtenAs_text hcol b rfl ?_ Iff.rfl fun data hlt hlarge hvalue => ?_
    · by_cases hnil : b = []
      · rw [Value.readBack, if_pos hnil, hnil]
        rfl
      · rw [Value.readBack, if_neg hnil, hdecode b hnil]
    · have hne : b ≠ [] := List.ne_nil_of_length_pos (by omega)
      rw [Value.readBack, if_neg hne] at hvalue
      by_cases hnil : data = []
      · rw [hnil] at hvalue
        cases hvalue
      · rw [hdecode data hnil] at hvalue
        cases hvalue
        omega
  | integer n =>
    obtain ⟨b, num, hencode, hne, hlen, hdecode, hint, hval⟩ := decodeOracleNumber_encode_integer n
    have hwrite : writeBindValue encoders (.integer n) = writeShort b := by
      rw [writeBindValue, hencode]
      rfl
    refine ⟨_, writtenAs_short hcol _ (by omega) (hwrite ▸ writes_writeShort b)
      (iff_of_true ?_ trivial)⟩
    have hnum : numberValue num = .integer n := by rw [numberValue, hint, hval]
    rw [scalarValue_of_ne_nil hne]
    obtain h | h := hsuits <;> rw [h, decodeColumnValue, hdecode] <;> exact congrArg _ hnum
  | float bits =>
    have hlen := length_encodeBinaryDouble bits
    have hwrite : Writes (writeBindValue encoders (.float bits))
        (UInt8.ofNat (encodeBinaryDouble bits).length :: encodeBinaryDouble bits) := by
      rw [hlen]
      exact (writes_writeU8 8).bind (writes_writeBytes _)
    refine ⟨_, writtenAs_short hcol _ (by omega) hwrite (iff_of_true ?_ trivial)⟩
    rw [scalarValue_of_ne_nil (List.ne_nil_of_length_pos (by omega)), show col.oracleType = _ from
      hsuits, decodeColumnValue, decodeBinaryDouble_encodeBinaryDouble]
    rfl
  | date d =>
    refine ⟨_, writtenAs_short hcol d.toOracleBytes (Nat.le_of_ble_eq_true rfl)
      (writes_writeShort _) ?_⟩
    rw [show col.oracleType = .date from hsuits]
    have hdate := decodeOracleDate_toOracleBytes_iff d []
    rw [List.append_nil] at hdate
    exact (map_eq_ok_iff (fun _ _ h => Value.date.inj h)).trans hdate
  | timestamp ts =>
    refine ⟨_, writtenAs_short hcol ts.toOracleBytes (Nat.le_of_ble_eq_true rfl)
      (writes_writeShort _) ?_⟩
    rw [show col.oracleType = .timestamp from hsuits]
    exact (map_eq_ok_iff (fun _ _ h => Value.timestamp.inj h)).trans
      (decodeOracleTimestamp_toOracleBytes_iff ts hscalar)
  | intervalYM interval =>
    refine ⟨_, writtenAs_short hcol (encodeOracleIntervalYm interval) ?_
      (writes_writeShort _) ?_⟩
    · simp [encodeOracleIntervalYm]
    · rw [show col.oracleType = .intervalYm from hsuits, scalarValue_of_ne_nil]
      · exact (map_eq_ok_iff (fun _ _ h => Value.intervalYM.inj h)).trans
          (decodeOracleIntervalYm_encode_iff interval)
      · simp [encodeOracleIntervalYm]
  | intervalDS interval =>
    refine ⟨_, writtenAs_short hcol (encodeOracleIntervalDs interval) ?_
      (writes_writeShort _) ?_⟩
    · simp [encodeOracleIntervalDs]
    · rw [show col.oracleType = .intervalDs from hsuits, scalarValue_of_ne_nil]
      · exact (map_eq_ok_iff (fun _ _ h => Value.intervalDS.inj h)).trans
          (decodeOracleIntervalDs_encode_iff interval)
      · simp [encodeOracleIntervalDs]
  | boolean b =>
    refine ⟨[2, if b then 1 else 0], (writes_writeU8 2).bind (writes_writeU8 _), fun c r hc => ?_⟩
    refine iff_of_false (fun hparse => ?_) not_false
    obtain ⟨data, -, hvalue⟩ := exists_of_parse hcol hparse
    rw [show col.oracleType = .boolean from hsuits] at hvalue
    exact scalarValue_ne_boolean data b hvalue
  | _ => exact hscalar.elim

end Value

/-! ## Rows -/

/-- A row of scalar values in columns that they suit is read back, column after column, if all its
values are framed; and only then, if its strings have fewer than `2 ^ 32` bytes each.

**Proof sketch.** Every value is written as some bytes, from which its column reads it back if and
only if it is framed. The rows are the values one behind the other. -/
theorem rowReadsBack_iff (encoders : Encoders) (codecs : Codecs) (caps : Capabilities)
    (row : List (Value × ColumnInfo))
    (hrow : ∀ cell ∈ row, cell.2.isScalar ∧ cell.1.IsScalar ∧ cell.1.Suits cell.2.oracleType) :
    ((∀ cell ∈ row, cell.1.Framed) → RowReadsBack encoders codecs caps row) ∧
      ((∀ cell ∈ row, cell.1.TextFits) → RowReadsBack encoders codecs caps row →
        ∀ cell ∈ row, cell.1.Framed) := by
  have hiff : (∀ cell ∈ row, cell.1.TextFits) →
      (RowReadsBack encoders codecs caps row ↔ ∀ cell ∈ row, cell.1.Framed) := by
    intro hfits
    set enc : Value × ColumnInfo → Bytes := fun cell =>
      Sink.written (writeBindValue encoders cell.1)
    have hcell : ∀ cell ∈ row, WrittenAs encoders codecs caps cell.2 cell.1 (enc cell) := by
      intro cell hmem
      obtain ⟨hcol, hscalar, hsuits⟩ := hrow cell hmem
      obtain ⟨b, hb⟩ := exists_writtenAs encoders codecs caps hcol hscalar hsuits (hfits cell hmem)
      rwa [show enc cell = b from hb.writes.written_eq]
    have hwrite : ∀ k, writeBindRow encoders ((row.take k).map Prod.fst) Sink.empty =
        .ok () (Sink.empty.push ((row.take k).flatMap enc)) := by
      intro k
      have h : Writes (writeBindRow encoders ((row.take k).map Prod.fst))
          (((row.take k).map Prod.fst).flatMap fun v => Sink.written (writeBindValue encoders v)) := by
        refine Writes.forM fun v hv => ?_
        obtain ⟨cell, hmem, rfl⟩ := List.mem_map.mp hv
        exact (hcell cell (List.mem_of_mem_take hmem)).writes
      rw [List.flatMap_map] at h
      exact h _ (Sink.hasRoom_empty _)
    have hreads := each_take_iff (fun cell => cell.1.readBack) (fun cell => cell.1.Framed)
      (fun cell hmem => (hcell cell hmem).parse_iff) (c := ⟨row.flatMap enc, 0⟩) (r := []) (by simp)
    rw [← hreads]
    have hall := hwrite row.length
    rw [List.take_length] at hall
    constructor
    · rintro ⟨buf, hbuf, h⟩ k hk
      obtain ⟨buf', hbuf', hread⟩ := h k hk
      rw [hall] at hbuf
      rw [hwrite k] at hbuf'
      cases hbuf
      cases hbuf'
      simpa [Sink.empty, advance] using hread
    · intro h
      refine ⟨_, hall, fun k hk => ⟨_, hwrite k, ?_⟩⟩
      simpa [Sink.empty, advance] using h k hk
  exact ⟨fun h => (hiff fun cell hmem => (h cell hmem).textFits).mpr h, fun h => (hiff h).mp⟩

/-- A row of a number, a text and NULL. -/
theorem rowReadsBack_number_text : RowReadsBack .rejecting .rejecting {}
    [(.integer (-42), .new "N" .number), (.string "text", .new "T" .varchar),
      (.null, .new "D" .date)] := by
  refine (rowReadsBack_iff .rejecting .rejecting {} _ ?_).1 ?_
  · simp [ColumnInfo.isScalar, ColumnInfo.isLob, ColumnInfo.new, OracleType.isLob, Value.IsScalar,
      Value.Suits]
  · have hlen : (asBytes "text").length ≤ 252 := by decide +kernel
    exact List.forall_mem_cons.mpr ⟨trivial, List.forall_mem_cons.mpr ⟨hlen,
      List.forall_mem_cons.mpr ⟨trivial, List.forall_mem_nil _⟩⟩⟩

/-- A row that is read back is read without an error. -/
lemma RowReadsBack.isOk {encoders : Encoders} {codecs : Codecs} {caps : Capabilities}
    {row : List (Value × ColumnInfo)} (h : RowReadsBack encoders codecs caps row) :
    (ReadM.runOn (each (parseColumnValue codecs caps) (row.map Prod.snd))
      (Sink.written (writeBindRow encoders (row.map Prod.fst)))).isOk = true := by
  obtain ⟨buf, hbuf, hread⟩ := h
  obtain ⟨buf', -, hok⟩ := hread row.length le_rfl
  rw [List.take_length] at hok
  rw [Sink.written, hbuf, ReadM.runOn, hok]
  rfl

/-- Neither a byte string of 253 bytes nor a boolean is read back. -/
theorem not_rowReadsBack :
    ¬ RowReadsBack .rejecting .rejecting {}
        [(.bytes (List.replicate 253 65), .new "R" .raw)] ∧
      ¬ RowReadsBack .rejecting .rejecting {}
        [(.boolean true, .new "B" .boolean), (.string "x", .new "T" .varchar)] := by
  refine ⟨fun h => ?_, fun h => ?_⟩
  · have := h.isOk
    revert this
    decide +kernel
  · have := h.isOk
    revert this
    decide +kernel

end OracleRs
