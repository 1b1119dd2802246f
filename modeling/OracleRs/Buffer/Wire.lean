import OracleRs.Buffer.Read

set_option relaxedAutoImplicit false
set_option autoImplicit false

/-!
# Fields of messages

Fields that occur again and again in the messages of a response, as the parsers read them and
as a sender writes them: a value behind an indicator, a counted number of raw bytes, counted
lists, and a text with a length prefix.

## Main definitions

* `OracleRs.indicated2`, `OracleRs.indicated4`, `OracleRs.skipCounted2`, `OracleRs.counted2` —
  the readers.
* `OracleRs.Indicated`, `OracleRs.Counted`, `OracleRs.Listed`, `OracleRs.MarkedList`,
  `OracleRs.TextBytes` — the fields.

## Main results

* `OracleRs.Indicated.reads_indicated2`, `OracleRs.Indicated.reads_indicated4`,
  `OracleRs.Counted.reads_skipCounted2`, `OracleRs.Listed.reads_counted2`,
  `OracleRs.TextBytes.reads_readStringWithLength` — every field is read exactly.
-/

namespace OracleRs

open Cursor

variable {α ω : Type} {k : ℕ}

/-! ## Readers -/

/-- `let n = buf.read_ub2()?; if n > 0 { … }`. -/
def indicated2 (m : ReadM α) : ReadM (Option α) := do
  let n ← readUb2
  if n > 0 then some <$> m else pure none

/-- `let n = buf.read_ub4()?; if n > 0 { … }`. -/
def indicated4 (m : ReadM α) : ReadM (Option α) := do
  let n ← readUb4
  if n > 0 then some <$> m else pure none

/-- `let n = buf.read_ub2()?; if n > 0 { buf.skip(n as usize)?; }`. -/
def skipCounted2 : ReadM Unit := do
  let n ← readUb2
  if n > 0 then
    skip n.toNat

/-- `let n = buf.read_ub2()?; for _ in 0..n { … }`. -/
def counted2 (m : ReadM α) : ReadM (List α) := do
  let n ← readUb2
  times m n.toNat

lemma exact_indicated2 {m : ReadM α} (h : Exact m) : Exact (indicated2 m) := by
  refine exact_readUb2.bind fun n => ?_
  split
  · exact h.map some
  · exact Exact.pure _

lemma exact_indicated4 {m : ReadM α} (h : Exact m) : Exact (indicated4 m) := by
  refine exact_readUb4.bind fun n => ?_
  split
  · exact h.map some
  · exact Exact.pure _

/-! ## Integers as they are read -/

namespace Ub

/-- A variable-length integer of two bytes fits its type. -/
lemma toNat_value2 (u : Ub 2) : (UInt16.ofNat u.value).toNat = u.value := by
  have := u.value_lt
  rw [UInt16.toNat_ofNat', Nat.mod_eq_of_lt (by omega)]

/-- A variable-length integer of four bytes fits its type. -/
lemma toNat_value4 (u : Ub 4) : (UInt32.ofNat u.value).toNat = u.value := by
  have := u.value_lt
  rw [UInt32.toNat_ofNat', Nat.mod_eq_of_lt (by omega)]

lemma value2_pos_iff (u : Ub 2) : UInt16.ofNat u.value > 0 ↔ u.value ≠ 0 := by
  rw [gt_iff_lt, UInt16.lt_iff_toNat_lt, toNat_value2]
  exact Nat.pos_iff_ne_zero

lemma value4_pos_iff (u : Ub 4) : UInt32.ofNat u.value > 0 ↔ u.value ≠ 0 := by
  rw [gt_iff_lt, UInt32.lt_iff_toNat_lt, toNat_value4]
  exact Nat.pos_iff_ne_zero

end Ub

/-! ## Values behind an indicator -/

/-- A value behind an indicator: it is there if and only if the indicator is not zero. -/
inductive Indicated (k : ℕ) (ω : Type) where
  /-- no value -/
  | absent (u : Ub k) (h : u.value = 0)
  /-- a value -/
  | present (u : Ub k) (h : u.value ≠ 0) (value : ω)

namespace Indicated

/-- The bytes on the wire. -/
def encode (enc : ω → Bytes) : Indicated k ω → Bytes
  | absent u _ => u.encode
  | present u _ value => u.encode ++ enc value

/-- The value, if there is one. -/
def value? : Indicated k ω → Option ω
  | absent _ _ => none
  | present _ _ value => some value

/-- No value, with the shortest indicator. -/
def none : Indicated k ω := absent Ub.zero rfl

variable {m : ReadM α} {enc : ω → Bytes} {val : ω → α}

lemma reads_indicated2 (i : Indicated 2 ω) (h : ∀ w, Reads m (enc w) (val w)) :
    Reads (indicated2 m) (i.encode enc) (i.value?.map val) := by
  cases i with
  | absent u hu =>
    refine u.reads_readUb2.bind_nil ?_
    rw [if_neg (by simp [hu])]
    exact Reads.pure _
  | present u hu w =>
    refine u.reads_readUb2.bind ?_
    rw [if_pos (u.value2_pos_iff.mpr hu)]
    exact (h w).map some

lemma reads_indicated4 (i : Indicated 4 ω) (h : ∀ w, Reads m (enc w) (val w)) :
    Reads (indicated4 m) (i.encode enc) (i.value?.map val) := by
  cases i with
  | absent u hu =>
    refine u.reads_readUb4.bind_nil ?_
    rw [if_neg (by simp [hu])]
    exact Reads.pure _
  | present u hu w =>
    refine u.reads_readUb4.bind ?_
    rw [if_pos (u.value4_pos_iff.mpr hu)]
    exact (h w).map some

end Indicated

/-! ## Counted bytes and lists -/

/-- Raw bytes behind their number. -/
structure Counted (k : ℕ) where
  /-- the number as it is written -/
  size : Ub k
  /-- the bytes -/
  data : Bytes
  /-- the written number is the number of bytes -/
  size_eq : size.value = data.length

namespace Counted

/-- The bytes on the wire. -/
def encode (c : Counted k) : Bytes := c.size.encode ++ c.data

/-- No bytes. -/
def nil : Counted k := ⟨Ub.zero, [], rfl⟩

lemma reads_skipCounted2 (c : Counted 2) : Reads skipCounted2 c.encode () := by
  refine c.size.reads_readUb2.bind ?_
  by_cases h : c.data = []
  · rw [if_neg (by simp [c.size_eq, h])]
    simpa [h] using Reads.pure ()
  · have hne : c.size.value ≠ 0 := by simpa [c.size_eq] using h
    rw [if_pos (c.size.value2_pos_iff.mpr hne), c.size.toNat_value2, c.size_eq]
    exact reads_skip c.data

end Counted

/-- Items behind their number. -/
structure Listed (k : ℕ) (ω : Type) where
  /-- the number as it is written -/
  size : Ub k
  /-- the items -/
  items : List ω
  /-- the written number is the number of items -/
  size_eq : size.value = items.length

namespace Listed

/-- The bytes on the wire. -/
def encode (enc : ω → Bytes) (l : Listed k ω) : Bytes := l.size.encode ++ l.items.flatMap enc

/-- No items. -/
def nil : Listed k ω := ⟨Ub.zero, [], rfl⟩

lemma reads_counted2 {m : ReadM α} {enc : ω → Bytes} {val : ω → α} (l : Listed 2 ω)
    (h : ∀ w, Reads m (enc w) (val w)) : Reads (counted2 m) (l.encode enc) (l.items.map val) := by
  refine l.size.reads_readUb2.bind ?_
  rw [l.size.toNat_value2, l.size_eq]
  exact Reads.times fun w _ => h w

end Listed

/-- Items behind their number and a byte, which is there if there are any items. -/
structure MarkedList (k : ℕ) (ω : Type) where
  /-- the items behind their number -/
  list : Listed k ω
  /-- the byte in front of the items -/
  marker : UInt8

namespace MarkedList

/-- The bytes on the wire. -/
def encode (enc : ω → Bytes) (l : MarkedList k ω) : Bytes :=
  l.list.size.encode ++
    if l.list.items = [] then [] else [l.marker] ++ l.list.items.flatMap enc

/-- No items. -/
def nil : MarkedList k ω := ⟨Listed.nil, 0⟩

end MarkedList

/-! ## Byte strings that may be NULL -/

/-- The bytes of a byte string that may be NULL. -/
def encodeNullable : Option ByteString → Bytes
  | some s => s.encode
  | none => [nullIndicator]

lemma reads_nullIndicator : Reads readBytesWithLength [nullIndicator] none :=
  (reads_readU8 nullIndicator).bind_nil (by simpa using Reads.pure _)

lemma reads_readBytesWithLength (s : Option ByteString) :
    Reads readBytesWithLength (encodeNullable s) (s.map ByteString.content) := by
  cases s with
  | some s => exact s.reads_readBytesWithLength
  | none => exact reads_nullIndicator

/-! ## Texts -/

/-- A text with a length prefix as a sender may write it. -/
structure TextBytes where
  /-- the bytes with their length -/
  raw : ByteString
  /-- the text -/
  text : String
  /-- the bytes are the text's -/
  valid : fromUtf8 raw.content = some text

namespace TextBytes

lemma reads_readStringWithLength (t : TextBytes) :
    Reads readStringWithLength t.raw.encode (some t.text) := by
  refine t.raw.reads_readBytesWithLength.bind_nil ?_
  simp only [t.valid]
  exact Reads.pure _

/-- A short text. -/
def short (s : String) (h : (asBytes s).length ≤ 252) : TextBytes :=
  ⟨.short (asBytes s) h, s, fromUtf8_asBytes s⟩

end TextBytes

/-- A text behind an indicator (`read_string_with_ub4_length`). -/
abbrev IndicatedText := Indicated 4 TextBytes

namespace IndicatedText

/-- The bytes on the wire. -/
def encode (t : IndicatedText) : Bytes := Indicated.encode (fun w => w.raw.encode) t

lemma reads_readStringWithUb4Length (t : IndicatedText) :
    Reads readStringWithUb4Length t.encode (t.value?.map (·.text)) := by
  cases t with
  | absent u hu =>
    refine u.reads_readUb4.bind_nil ?_
    rw [if_pos (by simp [hu])]
    exact Reads.pure _
  | present u hu w =>
    refine u.reads_readUb4.bind ?_
    have hne : UInt32.ofNat u.value ≠ 0 := by
      intro e
      have hzero := u.toNat_value4
      rw [e] at hzero
      exact hu hzero.symm
    rw [if_neg hne]
    exact w.reads_readStringWithLength

end IndicatedText

end OracleRs
