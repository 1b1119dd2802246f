import OracleRs.Lib.Numeral
import OracleRs.Text
import OracleRs.Types.Value

set_option relaxedAutoImplicit false
set_option autoImplicit false

/-!
# Texts of ROWIDs

The parser of `types/rowid.rs` beside `RowId.toText`. A text has four numerals in base 64, whose six and
three characters have room for 36 and 18 bits, while the parts have 32 and 16.

## Main definitions

* `OracleRs.parseRowidString` — the parser.
* `OracleRs.Renderable` — the texts of ROWIDs, by their characters.

## Main results

* `OracleRs.decodeBase64_iff` — which characters are a number.
* `OracleRs.parseRowidString_toText` — every valid ROWID is parsed from its text.
* `OracleRs.toText_parseRowidString_iff` — which accepted texts are rendered again.
-/

namespace OracleRs

open Numeral

/-! ## Parsing -/

/-- The index of a character in `BASE64_ALPHABET`. -/
def base64Index (c : UInt8) : Option UInt8 :=
  if 65 ≤ c ∧ c ≤ 90 then some (c - 65)
  else if 97 ≤ c ∧ c ≤ 122 then some (c - 97 + 26)
  else if 48 ≤ c ∧ c ≤ 57 then some (c - 48 + 52)
  else if c = 43 then some 62
  else if c = 47 then some 63
  else none

/-- `decode_base64`. -/
def decodeBase64 (chars : Bytes) : Except Error UInt64 :=
  chars.foldlM (fun value c =>
    match base64Index c with
    | some idx => .ok ((value <<< 6) ||| idx.toUInt64)
    | none => .error (.dataConversionError
        ("Invalid base64 character in ROWID: " ++ String.singleton (Char.ofNat c.toNat)))) 0

/-- `parse_rowid_string`. -/
def parseRowidString (s : String) : Except Error RowId :=
  let bytes := asBytes s
  if bytes.length ≠ 18 then
    .error (.dataConversionError
      ("Invalid ROWID string length: " ++ toString bytes.length ++ ", expected 18"))
  else do
    let rba ← decodeBase64 (bytes.take 6)
    let partitionId ← decodeBase64 ((bytes.drop 6).take 3)
    let blockNum ← decodeBase64 ((bytes.drop 9).take 6)
    let slotNum ← decodeBase64 ((bytes.drop 15).take 3)
    return {
      rba := rba.toUInt32
      partitionId := partitionId.toUInt16
      blockNum := blockNum.toUInt32
      slotNum := slotNum.toUInt16 }

/-! ## The alphabet -/

/-- The characters of the alphabet, one by one. -/
def alphabetChars : List Char := [
  'A', 'B', 'C', 'D', 'E', 'F', 'G', 'H', 'I', 'J', 'K', 'L', 'M', 'N', 'O', 'P',
  'Q', 'R', 'S', 'T', 'U', 'V', 'W', 'X', 'Y', 'Z', 'a', 'b', 'c', 'd', 'e', 'f',
  'g', 'h', 'i', 'j', 'k', 'l', 'm', 'n', 'o', 'p', 'q', 'r', 's', 't', 'u', 'v',
  'w', 'x', 'y', 'z', '0', '1', '2', '3', '4', '5', '6', '7', '8', '9', '+', '/']

lemma base64Alphabet_eq : RowId.base64Alphabet = alphabetChars := by decide +kernel

/-- A character of the alphabet. -/
def base64Char (d : ℕ) : Char := alphabetChars.getD d 'A'

/-- A character of the alphabet, as a byte. -/
def base64Byte (d : ℕ) : UInt8 := UInt8.ofNat (base64Char d).toNat

/-- The digit of a character. -/
abbrev base64Value (c : UInt8) : Option ℕ := (base64Index c).map UInt8.toNat

/-- The characters are ASCII, they are read, and the first four and sixteen of them are the small digits. -/
lemma base64Char_spec : ∀ d : Fin 64, (base64Char d).toNat < 128 ∧
    base64Value (base64Byte d) = some d.val ∧ (base64Char d ∈ alphabetChars.take 4 ↔ d.val < 4) ∧
      (base64Char d ∈ alphabetChars.take 16 ↔ d.val < 16) := by
  decide

/-- What is read is a character of the alphabet. -/
lemma base64Byte_of_index {c idx : UInt8} (h : base64Index c = some idx) :
    idx.toNat < 64 ∧ base64Byte idx.toNat = c := by
  have hall : ∀ c : UInt8, (base64Index c).all (fun idx => idx.toNat < 64 ∧ base64Byte idx.toNat = c) :=
    forall_byte (by decide +kernel)
  have hidx := hall c
  rw [h] at hidx
  simpa using hidx

lemma toNat_base64Char_lt {d : ℕ} (hd : d < 64) : (base64Char d).toNat < 128 :=
  (base64Char_spec ⟨d, hd⟩).1

/-- The parser undoes the alphabet. -/
lemma base64_alphabet : Alphabet 64 base64Byte base64Value where
  pos := by decide
  value_digit := fun d hd => (base64Char_spec ⟨d, hd⟩).2.1
  of_value := by
    intro c d h
    obtain ⟨idx, hidx, rfl⟩ := Option.map_eq_some_iff.mp h
    exact base64Byte_of_index hidx

/-- The same for characters. -/
lemma char_alphabet : Alphabet 64 base64Char fun c =>
    if c.toNat < 128 then base64Value (UInt8.ofNat c.toNat) else none where
  pos := by decide
  value_digit := fun d hd => (if_pos (toNat_base64Char_lt hd)).trans (base64_alphabet.value_digit d hd)
  of_value := by
    intro c d h
    split_ifs at h with hc
    obtain ⟨hd, hdigit⟩ := base64_alphabet.of_value _ d h
    refine ⟨hd, ?_⟩
    have hbyte := congrArg UInt8.toNat hdigit
    have hlt := toNat_base64Char_lt hd
    rw [base64Byte, UInt8.toNat_ofNat', UInt8.toNat_ofNat', Nat.mod_eq_of_lt (by omega),
      Nat.mod_eq_of_lt (by omega)] at hbyte
    exact Char.toNat_inj.mp hbyte

/-- The characters of a part are its numeral. -/
lemma convertBase64_eq (value numChars : ℕ) :
    RowId.convertBase64 value numChars = write 64 base64Char value numChars := by
  induction numChars generalizing value with
  | zero => rfl
  | succ numChars ih =>
    rw [RowId.convertBase64, ih, base64Alphabet_eq]
    rfl

/-! ## Numbers -/

/-- There is room for ten characters. -/
lemma toNat_shiftIn_base64 {value : UInt64} {idx : UInt8} (hvalue : value.toNat < 64 ^ 9)
    (hidx : idx.toNat < 64) :
    ((value <<< 6) ||| idx.toUInt64).toNat = value.toNat * 64 + idx.toNat := by
  have hlt : value.toNat <<< 6 < 2 ^ 64 := by
    rw [Nat.shiftLeft_eq]
    omega
  have hshift : (value <<< 6).toNat = value.toNat <<< 6 := by
    rw [UInt64.toNat_shiftLeft]
    exact Nat.mod_eq_of_lt hlt
  have hsix : idx.toNat < 2 ^ 6 := hidx
  rw [UInt64.toNat_or, hshift, UInt8.toNat_toUInt64, ← Nat.shiftLeft_add_eq_or_of_lt hsix,
    Nat.shiftLeft_eq]

lemma decodeBase64_append_singleton (chars : Bytes) (c : UInt8) :
    decodeBase64 (chars ++ [c]) = (do
      let value ← decodeBase64 chars
      match base64Index c with
      | some idx => .ok ((value <<< 6) ||| idx.toUInt64)
      | none => .error (.dataConversionError
          ("Invalid base64 character in ROWID: " ++ String.singleton (Char.ofNat c.toNat)))) := by
  rw [decodeBase64, List.foldlM_append]
  exact bind_congr fun value => bind_pure _

/-- The number of up to ten characters is that of their numeral. -/
lemma decodeBase64_eq_ok_iff_read {chars : Bytes} (hlen : chars.length ≤ 10) {v : UInt64} :
    decodeBase64 chars = .ok v ↔ read 64 base64Value chars = some v.toNat := by
  induction chars using List.reverseRecOn generalizing v with
  | nil =>
    rw [read_nil, Option.some_inj]
    constructor
    · rintro ⟨⟩
      rfl
    · intro h
      have hzero : v = 0 := UInt64.toNat_inj.mp h.symm
      rw [hzero]
      rfl
  | append_singleton chars c ih =>
    rw [List.length_append, List.length_singleton] at hlen
    have hpow : 64 ^ chars.length ≤ 64 ^ 9 := Nat.pow_le_pow_right (by decide) (by omega)
    rw [decodeBase64_append_singleton, read_append_singleton]
    constructor
    · intro h
      obtain ⟨value, hvalue, h⟩ := exists_of_ok_bind h
      have hread := (ih (by omega)).mp hvalue
      have hlt := (base64_alphabet.of_read hread).1
      cases hidx : base64Index c with
      | none =>
        rw [hidx] at h
        cases h
      | some idx =>
        rw [hidx] at h
        cases h
        have hvalue' : base64Value c = some idx.toNat := congrArg (Option.map UInt8.toNat) hidx
        have hidx' := (base64_alphabet.of_value c idx.toNat hvalue').1
        rw [toNat_shiftIn_base64 (by omega) hidx', hread, hvalue']
        rfl
    · intro h
      obtain ⟨n, hread, hlast⟩ := Option.bind_eq_some_iff.mp h
      obtain ⟨d, hd, hsum⟩ := Option.map_eq_some_iff.mp hlast
      obtain ⟨idx, hidx, rfl⟩ := Option.map_eq_some_iff.mp hd
      have hlt := (base64_alphabet.of_read hread).1
      have hidx' := (base64_alphabet.of_value c idx.toNat hd).1
      have hsize : n < 2 ^ 64 := by omega
      have hback : (UInt64.ofNat n).toNat = n := UInt64.toNat_ofNat_of_lt' hsize
      have hvalue : decodeBase64 chars = .ok (UInt64.ofNat n) := (ih (by omega)).mpr (by rw [hback, hread])
      have hv : (UInt64.ofNat n <<< 6) ||| idx.toUInt64 = v := by
        rw [← UInt64.toNat_inj, toNat_shiftIn_base64 (by omega) hidx', hback, hsum]
      rw [hvalue, hidx]
      exact congrArg Except.ok hv

/-- Up to ten characters are the number whose digits they are. -/
lemma decodeBase64_iff {chars : Bytes} (hlen : chars.length ≤ 10) {v : UInt64} :
    decodeBase64 chars = .ok v ↔
      v.toNat < 64 ^ chars.length ∧ write 64 base64Byte v.toNat chars.length = chars := by
  rw [decodeBase64_eq_ok_iff_read hlen, base64_alphabet.read_eq_some_iff]

/-! ## Texts of ROWIDs -/

namespace RowId

/-- The characters of the parts. -/
def chars (rba partitionId blockNum slotNum : ℕ) : List Char :=
  write 64 base64Char rba 6 ++ (write 64 base64Char partitionId 3 ++
    (write 64 base64Char blockNum 6 ++ write 64 base64Char slotNum 3))

variable {r : RowId} {s : String}

lemma toText_of_isValid (h : r.isValid = true) :
    r.toText = some (String.ofList
      (chars r.rba.toNat r.partitionId.toNat r.blockNum.toNat r.slotNum.toNat)) := by
  rw [toText, if_pos h, convertBase64_eq, convertBase64_eq, convertBase64_eq, convertBase64_eq, chars,
    List.append_assoc, List.append_assoc]

/-- Only a ROWID with a part that is not zero has a text. -/
lemma toText_eq_some_iff : r.toText = some s ↔
    ¬(r.rba.toNat = 0 ∧ r.partitionId.toNat = 0 ∧ r.blockNum.toNat = 0 ∧ r.slotNum.toNat = 0) ∧
      String.ofList (chars r.rba.toNat r.partitionId.toNat r.blockNum.toNat r.slotNum.toNat) = s := by
  have hvalid : r.isValid = true ↔
      ¬(r.rba.toNat = 0 ∧ r.partitionId.toNat = 0 ∧ r.blockNum.toNat = 0 ∧ r.slotNum.toNat = 0) := by
    simp only [isValid, Bool.or_eq_true, decide_eq_true_eq, ne_eq, ← UInt32.toNat_inj, ← UInt16.toNat_inj,
      UInt32.toNat_zero, UInt16.toNat_zero]
    omega
  rw [← hvalid]
  by_cases h : r.isValid = true
  · rw [toText_of_isValid h, Option.some_inj]
    exact (and_iff_right h).symm
  · rw [toText, if_neg h]
    constructor
    · rintro ⟨⟩
    · exact fun hs => absurd hs.1 h

end RowId

/-- The bytes of the parts. -/
lemma asBytes_chars (rba partitionId blockNum slotNum : ℕ) :
    asBytes (String.ofList (RowId.chars rba partitionId blockNum slotNum)) =
      write 64 base64Byte rba 6 ++ (write 64 base64Byte partitionId 3 ++
        (write 64 base64Byte blockNum 6 ++ write 64 base64Byte slotNum 3)) := by
  have hascii : ∀ {n width : ℕ}, ∀ c ∈ write 64 base64Char n width, c.toNat < 128 := by
    intro n width c hc
    obtain ⟨d, hd, rfl⟩ := exists_of_mem_write (by decide) hc
    exact toNat_base64Char_lt hd
  have hmap : ∀ n width : ℕ, (write 64 base64Char n width).map (fun c => UInt8.ofNat c.toNat) =
      write 64 base64Byte n width := fun n width => map_write _
  rw [asBytes_ofList, RowId.chars]
  · simp only [List.map_append, hmap]
  · intro c hc
    simp only [RowId.chars, List.mem_append] at hc
    rcases hc with hc | hc | hc | hc <;> exact hascii c hc

/-- The parts of a text are parsed one by one. -/
lemma parseRowidString_eq {s : String} {rba partitionId blockNum slotNum : Bytes}
    (hs : asBytes s = rba ++ (partitionId ++ (blockNum ++ slotNum))) (hrba : rba.length = 6)
    (hpartition : partitionId.length = 3) (hblock : blockNum.length = 6) (hslot : slotNum.length = 3) :
    parseRowidString s = (do
      let rba ← decodeBase64 rba
      let partitionId ← decodeBase64 partitionId
      let blockNum ← decodeBase64 blockNum
      let slotNum ← decodeBase64 slotNum
      return ⟨rba.toUInt32, partitionId.toUInt16, blockNum.toUInt32, slotNum.toUInt16⟩) := by
  have hlen : (asBytes s).length = 18 := by
    rw [hs, List.length_append, List.length_append, List.length_append, hrba, hpartition, hblock, hslot]
  have htake : (asBytes s).take 6 = rba := by rw [hs, List.take_left' hrba]
  have hdrop : (asBytes s).drop 6 = partitionId ++ (blockNum ++ slotNum) := by rw [hs, List.drop_left' hrba]
  have hdrop' : (asBytes s).drop 9 = blockNum ++ slotNum := by
    rw [show 9 = 6 + 3 from rfl, ← List.drop_drop, hdrop, List.drop_left' hpartition]
  have hdrop'' : (asBytes s).drop 15 = slotNum := by
    rw [show 15 = 9 + 6 from rfl, ← List.drop_drop, hdrop', List.drop_left' hblock]
  rw [parseRowidString, if_neg (not_not.mpr hlen), htake, hdrop, hdrop', hdrop'',
    List.take_left' hpartition, List.take_left' hblock, List.take_of_length_le hslot.le]

/-- A part is parsed from its characters. -/
lemma decodeBase64_write {n width : ℕ} (hwidth : width ≤ 10) (hn : n < 64 ^ width) :
    decodeBase64 (write 64 base64Byte n width) = .ok (UInt64.ofNat n) := by
  have hpow : 64 ^ width ≤ 64 ^ 10 := Nat.pow_le_pow_right (by decide) hwidth
  have hsize : n < 2 ^ 64 := by omega
  have hback : (UInt64.ofNat n).toNat = n := UInt64.toNat_ofNat_of_lt' hsize
  have hlen : (write 64 base64Byte n width).length = width := length_write
  rw [decodeBase64_iff (hlen.trans_le hwidth), hlen, hback]
  exact ⟨hn, rfl⟩

/-- **Every valid ROWID is parsed from its text**, which has 18 characters. -/
theorem parseRowidString_toText (r : RowId) (h : r.isValid = true) :
    ∃ s, r.toText = some s ∧ s.length = 18 ∧ parseRowidString s = .ok r := by
  refine ⟨_, RowId.toText_of_isValid h, ?_, ?_⟩
  · simp [RowId.chars]
  · have hrba := r.rba.toNat_lt
    have hpartition := r.partitionId.toNat_lt
    have hblock := r.blockNum.toNat_lt
    have hslot := r.slotNum.toNat_lt
    rw [parseRowidString_eq (asBytes_chars _ _ _ _) length_write length_write length_write length_write,
      decodeBase64_write (by decide) (by omega), decodeBase64_write (by decide) (by omega),
      decodeBase64_write (by decide) (by omega), decodeBase64_write (by decide) (by omega)]
    obtain ⟨rba, partitionId, blockNum, slotNum⟩ := r
    simp [bind, Except.bind, pure, Except.pure]

theorem parseRowidString_toText_four :
    ∃ s, (RowId.mk 1 1 1 1).toText = some s ∧ s.length = 18 ∧ parseRowidString s = .ok ⟨1, 1, 1, 1⟩ :=
  parseRowidString_toText ⟨1, 1, 1, 1⟩ (by decide)

/-! ## Accepted texts -/

/-- What is accepted are the characters of four numbers, which are cut to the sizes of the parts. -/
lemma of_parseRowidString {s : String} {r : RowId} (h : parseRowidString s = .ok r) :
    ∃ rba partitionId blockNum slotNum : UInt64, rba.toNat < 64 ^ 6 ∧ partitionId.toNat < 64 ^ 3 ∧
      blockNum.toNat < 64 ^ 6 ∧ slotNum.toNat < 64 ^ 3 ∧
      s = String.ofList (RowId.chars rba.toNat partitionId.toNat blockNum.toNat slotNum.toNat) ∧
      r = ⟨rba.toUInt32, partitionId.toUInt16, blockNum.toUInt32, slotNum.toUInt16⟩ := by
  have hlen : (asBytes s).length = 18 := by
    by_contra hlen
    rw [parseRowidString, if_pos hlen] at h
    cases h
  have hsplit : asBytes s = (asBytes s).take 6 ++ (((asBytes s).drop 6).take 3 ++
      (((asBytes s).drop 9).take 6 ++ (asBytes s).drop 15)) := by
    rw [show 15 = 9 + 6 from rfl, ← List.drop_drop, List.take_append_drop, show 9 = 6 + 3 from rfl,
      ← List.drop_drop, List.take_append_drop, List.take_append_drop]
  have hrba : ((asBytes s).take 6).length = 6 := by rw [List.length_take, hlen]; rfl
  have hpartition : (((asBytes s).drop 6).take 3).length = 3 := by
    rw [List.length_take, List.length_drop, hlen]
    rfl
  have hblock : (((asBytes s).drop 9).take 6).length = 6 := by
    rw [List.length_take, List.length_drop, hlen]
    rfl
  have hslot : ((asBytes s).drop 15).length = 3 := by rw [List.length_drop, hlen]
  rw [parseRowidString_eq hsplit hrba hpartition hblock hslot] at h
  obtain ⟨rba, h1, h⟩ := exists_of_ok_bind h
  obtain ⟨partitionId, h2, h⟩ := exists_of_ok_bind h
  obtain ⟨blockNum, h3, h⟩ := exists_of_ok_bind h
  obtain ⟨slotNum, h4, h⟩ := exists_of_ok_bind h
  cases h
  rw [decodeBase64_iff (by omega), hrba] at h1
  rw [decodeBase64_iff (by omega), hpartition] at h2
  rw [decodeBase64_iff (by omega), hblock] at h3
  rw [decodeBase64_iff (by omega), hslot] at h4
  refine ⟨rba, partitionId, blockNum, slotNum, h1.1, h2.1, h3.1, h4.1, ?_, rfl⟩
  have hbytes := asBytes_chars rba.toNat partitionId.toNat blockNum.toNat slotNum.toNat
  rw [h1.2, h2.2, h3.2, h4.2, ← hsplit] at hbytes
  have hback := congrArg fromUtf8 hbytes
  rw [fromUtf8_asBytes, fromUtf8_asBytes] at hback
  exact (Option.some_injective _ hback).symm

/-- A text with parts that fit: the first of six characters stands for two bits, the first of three for
four, and not all characters are `A`. -/
def Renderable (s : String) : Prop :=
  s.toList.getD 0 'A' ∈ RowId.base64Alphabet.take 4 ∧ s.toList.getD 6 'A' ∈ RowId.base64Alphabet.take 16 ∧
    s.toList.getD 9 'A' ∈ RowId.base64Alphabet.take 4 ∧
    s.toList.getD 15 'A' ∈ RowId.base64Alphabet.take 16 ∧ ∃ c ∈ s.toList, c ≠ 'A'

/-- The first character of a part. -/
lemma getD_write_append (n width : ℕ) (rest : List Char) :
    (write 64 base64Char n (width + 1) ++ rest).getD 0 'A' = base64Char (n / 64 ^ width % 64) := by
  rw [write_succ]
  rfl

/-- The characters behind a part. -/
lemma getD_write_append_add (n width k : ℕ) (rest : List Char) :
    (write 64 base64Char n width ++ rest).getD (width + k) 'A' = rest.getD k 'A' := by
  have hlen : (write 64 base64Char n width).length = width := length_write
  rw [List.getD_eq_getElem?_getD, List.getElem?_append_right (by omega), hlen, Nat.add_sub_cancel_left,
    List.getD_eq_getElem?_getD]

/-- Which texts have parts that fit. -/
lemma renderable_chars_iff {rba partitionId blockNum slotNum : ℕ} (hrba : rba < 64 ^ 6)
    (hpartition : partitionId < 64 ^ 3) (hblock : blockNum < 64 ^ 6) (hslot : slotNum < 64 ^ 3) :
    Renderable (String.ofList (RowId.chars rba partitionId blockNum slotNum)) ↔
      (rba < 2 ^ 32 ∧ partitionId < 2 ^ 16 ∧ blockNum < 2 ^ 32 ∧ slotNum < 2 ^ 16) ∧
        ¬(rba = 0 ∧ partitionId = 0 ∧ blockNum = 0 ∧ slotNum = 0) := by
  have hdigit : ∀ n : ℕ, (base64Char (n % 64) ∈ alphabetChars.take 4 ↔ n % 64 < 4) ∧
      (base64Char (n % 64) ∈ alphabetChars.take 16 ↔ n % 64 < 16) := by
    intro n
    exact (base64Char_spec ⟨n % 64, Nat.mod_lt n (by decide)⟩).2.2
  have hlast : (RowId.chars rba partitionId blockNum slotNum).getD 15 'A' =
      base64Char (slotNum / 64 ^ 2 % 64) := by
    rw [RowId.chars, getD_write_append_add _ 6 9, getD_write_append_add _ 3 6, getD_write_append_add _ 6 0,
      ← List.append_nil (write _ _ slotNum _), getD_write_append]
  have hzero : (∃ c ∈ RowId.chars rba partitionId blockNum slotNum, c ≠ 'A') ↔
      ¬(rba = 0 ∧ partitionId = 0 ∧ blockNum = 0 ∧ slotNum = 0) := by
    rw [← char_alphabet.forall_write_iff hrba, ← char_alphabet.forall_write_iff hpartition,
      ← char_alphabet.forall_write_iff hblock, ← char_alphabet.forall_write_iff hslot,
      ← List.forall_mem_append, ← List.forall_mem_append, ← List.forall_mem_append, ← RowId.chars,
      show base64Char 0 = 'A' from rfl]
    simp only [not_forall, exists_prop, ne_eq]
  rw [Renderable, base64Alphabet_eq, String.toList_ofList, hzero, hlast]
  rw [RowId.chars, getD_write_append, getD_write_append_add _ 6 0, getD_write_append,
    getD_write_append_add _ 6 3, getD_write_append_add _ 3 0, getD_write_append,
    (hdigit _).1, (hdigit _).2, (hdigit _).1, (hdigit _).2]
  rw [← and_assoc, ← and_assoc, ← and_assoc]
  refine and_congr_left' ?_
  omega

/-- The parts of a text are known from its characters. -/
lemma chars_inj {a b c d a' b' c' d' : ℕ} (ha : a < 64 ^ 6) (hb : b < 64 ^ 3) (hc : c < 64 ^ 6)
    (hd : d < 64 ^ 3) (ha' : a' < 64 ^ 6) (hb' : b' < 64 ^ 3) (hc' : c' < 64 ^ 6) (hd' : d' < 64 ^ 3) :
    RowId.chars a b c d = RowId.chars a' b' c' d' ↔ a = a' ∧ b = b' ∧ c = c' ∧ d = d' := by
  constructor
  · intro h
    obtain ⟨hrba, h⟩ := List.append_inj h (by rw [length_write, length_write])
    obtain ⟨hpartition, h⟩ := List.append_inj h (by rw [length_write, length_write])
    obtain ⟨hblock, hslot⟩ := List.append_inj h (by rw [length_write, length_write])
    exact ⟨(char_alphabet.write_inj ha ha').mp hrba, (char_alphabet.write_inj hb hb').mp hpartition,
      (char_alphabet.write_inj hc hc').mp hblock, (char_alphabet.write_inj hd hd').mp hslot⟩
  · rintro ⟨rfl, rfl, rfl, rfl⟩
    rfl

/-- An accepted text is rendered again if and only if its parts fit, and one of them is not zero. -/
lemma toText_eq_iff_renderable {s : String} {r : RowId} (h : parseRowidString s = .ok r) :
    r.toText = some s ↔ Renderable s := by
  obtain ⟨rba, partitionId, blockNum, slotNum, hrba, hpartition, hblock, hslot, rfl, rfl⟩ :=
    of_parseRowidString h
  rw [renderable_chars_iff hrba hpartition hblock hslot]
  have h32 : ∀ v : UInt64, v.toUInt32.toNat = v.toNat % 2 ^ 32 := UInt64.toNat_toUInt32
  have h16 : ∀ v : UInt64, v.toUInt16.toNat = v.toNat % 2 ^ 16 := UInt64.toNat_toUInt16
  rw [RowId.toText_eq_some_iff, String.ofList_inj, h32, h16, h32, h16,
    chars_inj (by omega) (by omega) (by omega) (by omega) hrba hpartition hblock hslot]
  omega

/-- **Which accepted texts are rendered again**: exactly those whose parts fit, of which at least one is not
zero; and two different ones of them are different ROWIDs. -/
theorem toText_parseRowidString_iff (s : String) (r : RowId) (h : parseRowidString s = .ok r) :
    (r.toText = some s ↔ Renderable s) ∧
      ∀ s' : String, parseRowidString s' = .ok r → Renderable s → Renderable s' → s = s' := by
  refine ⟨toText_eq_iff_renderable h, fun s' h' hs hs' => ?_⟩
  have htext := (toText_eq_iff_renderable h).mpr hs
  rw [(toText_eq_iff_renderable h').mpr hs'] at htext
  exact (Option.some_injective _ htext).symm

theorem toText_parseRowidString_lastSlot :
    ((RowId.mk 0 0 0 1).toText = some "AAAAAAAAAAAAAAAAAB" ↔ Renderable "AAAAAAAAAAAAAAAAAB") ∧
      ∀ s', parseRowidString s' = .ok ⟨0, 0, 0, 1⟩ → Renderable "AAAAAAAAAAAAAAAAAB" →
        Renderable s' → "AAAAAAAAAAAAAAAAAB" = s' :=
  toText_parseRowidString_iff _ _ (by decide +kernel)

/-- A text with an upper digit that does not fit is accepted, and is not rendered again. -/
theorem not_toText_parseRowidString :
    ¬∀ (s : String) (r : RowId), parseRowidString s = .ok r → r.toText = some s := by
  intro h
  exact absurd (h "EAAAAAAAAAAAAAAAAB" ⟨0, 0, 0, 1⟩) (by decide +kernel)

end OracleRs
